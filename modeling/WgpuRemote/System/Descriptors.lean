/-
Descriptors from the application to the server's wgpu.

A create call of the application is translated to an action (`create_action`);
the server resolves the action's ids and calls its own wgpu. When the server
answers `Ok`, its call is the application's, with each handle replaced by the
object in the table, up to one thing: the compilation options of pipeline
stages. The wire carries their constants, but the server compiles every stage
with the defaults, so the two calls agree exactly when every stage asks for the
defaults (`descriptor_survives_iff`).

The proof goes hop by hop: a translated descriptor that the server resolves is
the original over objects. Each family of descriptors has its own lemma, and
the families without references are settled by their definitions.
-/
import WgpuRemote.Client.Translate
import WgpuRemote.Server.Contract

set_option autoImplicit false

namespace WgpuRemote

open Bincode Client Server
open Wgpu (Obj Gpu CreateCall PipelineCompilationOptions)

section Descriptors

variable [WgpuTypes]

/-- The table object of a handle. -/
def resolve (t : ResourceTables) (k : Kind) (h : Wrapped k) : Option (Obj k) :=
  h.as_custom.bind fun h => ResourceTables.get t h.id

/-- An object, as something that resolved. -/
def resolved (k : Kind) (o : Obj k) : Option (Obj k) := some o

/-! ## References -/

omit [WgpuTypes] in
/-- One reference, over both hops. -/
theorem resolve_of_custom_id {kind what : String} {t : ResourceTables} {k : Kind} {h : Wrapped k}
    {id : Id k} {o : Obj k} (hid : custom_id kind h = .ok id) (ho : lookup_as what t id = .ok o) :
    resolve t k h = resolved k o := by
  unfold custom_id at hid
  unfold lookup_as at ho
  unfold resolve resolved
  -- a foreign handle is not translated, a missing id is not resolved
  rcases hc : h.as_custom with _ | f
  · rw [hc] at hid
    cases hid
  · rw [hc] at hid
    cases hid
    rcases hg : ResourceTables.get t f.id with _ | x
    · rw [hg] at ho
      cases ho
    · rw [hg] at ho
      cases ho
      exact hg

omit [WgpuTypes] in
/-- A list, over both hops: element by element. -/
theorem map_of_mapM {α β γ δ ε ε' : Type} {f : α → Except ε β} {g : β → Except ε' γ}
    {p : γ → δ} {q : α → δ} (hfg : ∀ a b c, f a = .ok b → g b = .ok c → q a = p c)
    {l : List α} {l' : List β} {l'' : List γ} (hf : l.mapM f = .ok l') (hg : l'.mapM g = .ok l'') :
    l.map q = l''.map p := by
  induction l generalizing l' l'' with
  | nil =>
      cases hf
      cases hg
      rfl
  | cons a l ih =>
      rw [List.mapM_cons] at hf
      obtain ⟨b, hb, hf⟩ := bind_eq_ok.mp hf
      obtain ⟨bs, hbs, hret⟩ := bind_eq_ok.mp hf
      cases hret
      rw [List.mapM_cons] at hg
      obtain ⟨c, hc, hg⟩ := bind_eq_ok.mp hg
      obtain ⟨cs, hcs, hret⟩ := bind_eq_ok.mp hg
      cases hret
      rw [List.map_cons, List.map_cons, hfg a b c hb hc, ih hbs hcs]

omit [WgpuTypes] in
/-- A result that is there is the value of a success. -/
theorem toOption_eq_some {ε α : Type} {x : Except ε α} {a : α} (h : x.toOption = some a) :
    x = .ok a := by
  rcases x with e | b
  · cases h
  · cases h
    rfl

/-! ## Families with references -/

omit [WgpuTypes] in
/-- A binding that the server takes is not an array, and names the same object. -/
theorem binding_resource_survives {t : ResourceTables} {r : Wgpu.BindingResource Wrapped}
    {w : BindingResource} {d : Wgpu.BindingResource Obj} (hw : binding_resource r = .ok w)
    (hd : bind_group_resource t w = .ok d) : r.map (resolve t) = d.map resolved := by
  rcases r with b | arr | s | arr | v | arr
  · obtain ⟨id, hid, hret⟩ := bind_eq_ok.mp hw
    cases hret
    obtain ⟨o, ho, hret⟩ := bind_eq_ok.mp hd
    cases hret
    have hres := resolve_of_custom_id hid ho
    simp only [Wgpu.BindingResource.map, Wgpu.BufferBinding.map, hres]
  · obtain ⟨bs, -, hret⟩ := bind_eq_ok.mp hw
    cases hret
    cases hd
  · obtain ⟨id, hid, hret⟩ := bind_eq_ok.mp hw
    cases hret
    obtain ⟨o, ho, hret⟩ := bind_eq_ok.mp hd
    cases hret
    have hres := resolve_of_custom_id hid ho
    simp only [Wgpu.BindingResource.map, hres]
  · obtain ⟨bs, -, hret⟩ := bind_eq_ok.mp hw
    cases hret
    cases hd
  · obtain ⟨id, hid, hret⟩ := bind_eq_ok.mp hw
    cases hret
    obtain ⟨o, ho, hret⟩ := bind_eq_ok.mp hd
    cases hret
    have hres := resolve_of_custom_id hid ho
    simp only [Wgpu.BindingResource.map, hres]
  · obtain ⟨bs, -, hret⟩ := bind_eq_ok.mp hw
    cases hret
    cases hd

omit [WgpuTypes] in
/-- An entry of a bind group arrives as it was given. -/
theorem bind_group_entry_survives {t : ResourceTables} (e : Wgpu.BindGroupEntry Wrapped)
    (w : BindGroupEntry) (d : Wgpu.BindGroupEntry Obj) (hw : Client.bind_group_entry e = .ok w)
    (hd : Server.bind_group_entry t w = .ok d) : e.map (resolve t) = d.map resolved := by
  obtain ⟨r, hr, hret⟩ := bind_eq_ok.mp hw
  cases hret
  obtain ⟨o, ho, hret⟩ := bind_eq_ok.mp hd
  cases hret
  have hres := binding_resource_survives hr ho
  simp only [Wgpu.BindGroupEntry.map, hres]

omit [WgpuTypes] in
/-- A bind group arrives as it was given, the order of its entries included. -/
theorem bind_group_survives {t : ResourceTables} {desc : Wgpu.BindGroupDescriptor Wrapped}
    {w : BindGroupDescriptor} {d : Wgpu.BindGroupDescriptor Obj}
    (hw : Client.bind_group_descriptor desc = .ok w)
    (hd : Server.bind_group_descriptor t w = .ok d) : desc.map (resolve t) = d.map resolved := by
  obtain ⟨layout, hlayout, hw⟩ := bind_eq_ok.mp hw
  obtain ⟨entries, hentries, hret⟩ := bind_eq_ok.mp hw
  cases hret
  obtain ⟨l, hl, hd⟩ := bind_eq_ok.mp hd
  obtain ⟨es, hes, hret⟩ := bind_eq_ok.mp hd
  cases hret
  have hlay := resolve_of_custom_id hlayout hl
  have hent := map_of_mapM bind_group_entry_survives hentries hes
  simp only [Wgpu.BindGroupDescriptor.map, hlay, hent, own_label]

/-- So does a pipeline layout. -/
theorem pipeline_layout_survives {t : ResourceTables}
    {desc : Wgpu.PipelineLayoutDescriptor Wrapped} {w : PipelineLayoutDescriptor}
    {d : Wgpu.PipelineLayoutDescriptor Obj} (hw : Client.pipeline_layout_descriptor desc = .ok w)
    (hd : Server.pipeline_layout_descriptor t w = .ok d) :
    desc.map (resolve t) = d.map resolved := by
  obtain ⟨layouts, hlayouts, hret⟩ := bind_eq_ok.mp hw
  cases hret
  obtain ⟨bgls, hbgls, hret⟩ := bind_eq_ok.mp hd
  cases hret
  have hlay := map_of_mapM (fun _ _ _ hid ho => resolve_of_custom_id hid ho) hlayouts hbgls
  simp only [Wgpu.PipelineLayoutDescriptor.map, hlay, own_label]

omit [WgpuTypes] in
/-- An optional layout arrives if it was given. -/
theorem optional_layout_survives {t : ResourceTables} {l : Option (Wrapped .PipelineLayout)}
    {w : Option PipelineLayoutId} {d : Option (Obj .PipelineLayout)}
    (hw : optional_layout l = .ok w) (hd : lookup_option t w = .ok d) :
    l.map (resolve t _) = d.map (resolved _) := by
  rcases l with _ | l
  · cases hw
    cases hd
    rfl
  · obtain ⟨id, hid, hret⟩ := bind_eq_ok.mp hw
    cases hret
    rw [lookup_option] at hd
    rcases ho : lookup t id with e | o
    · rw [ho] at hd
      cases hd
    · rw [ho] at hd
      cases hd
      exact congrArg some (resolve_of_custom_id hid ho)

omit [WgpuTypes] in
/-- What the server makes of a pipeline is compiled with the defaults. -/
theorem compute_pipeline_survives {t : ResourceTables}
    {desc : Wgpu.ComputePipelineDescriptor Wrapped} {w : ComputePipelineDescriptor}
    {d : Wgpu.ComputePipelineDescriptor Obj} (hw : Client.compute_pipeline_descriptor desc = .ok w)
    (hd : Server.compute_pipeline_descriptor t w = .ok d) :
    d.compilation_options = .default ∧
      (desc.compilation_options = .default → desc.map (resolve t) = d.map resolved) := by
  obtain ⟨layout, hlayout, hw⟩ := bind_eq_ok.mp hw
  obtain ⟨module, hmodule, hret⟩ := bind_eq_ok.mp hw
  cases hret
  obtain ⟨m, hm, hd⟩ := bind_eq_ok.mp hd
  obtain ⟨l, hl, hret⟩ := bind_eq_ok.mp hd
  cases hret
  refine ⟨rfl, fun hopt => ?_⟩
  have hlay := optional_layout_survives hlayout hl
  have hmod := resolve_of_custom_id hmodule hm
  simp only [Wgpu.ComputePipelineDescriptor.map, hlay, hmod, hopt, own_label]

/-- A fragment stage arrives with default compilation options, and is otherwise as given. -/
theorem fragment_survives {t : ResourceTables} {f : Option (Wgpu.FragmentState Wrapped)}
    {w : Option FragmentState} {d : Option (Wgpu.FragmentState Obj)}
    (hw : optional_fragment f = .ok w) (hd : lookup_fragment t w = .ok d) :
    (∀ s ∈ d, s.compilation_options = .default) ∧
      ((∀ s ∈ f, s.compilation_options = .default) →
        f.map (fun s => s.map (resolve t)) = d.map (fun s => s.map resolved)) := by
  rcases f with _ | f
  · cases hw
    cases hd
    refine ⟨fun s hs => ?_, fun _ => rfl⟩
    cases hs
  · obtain ⟨w', hw', hret⟩ := bind_eq_ok.mp hw
    cases hret
    obtain ⟨module, hmodule, hret⟩ := bind_eq_ok.mp hw'
    cases hret
    obtain ⟨m, hm, hret⟩ := bind_eq_ok.mp hd
    cases hret
    refine ⟨fun s hs => ?_, fun hopt => ?_⟩
    · cases hs
      rfl
    · have hmod := resolve_of_custom_id hmodule hm
      have hf := hopt f rfl
      simp only [Option.map_some, Wgpu.FragmentState.map, hmod, hf]

omit [WgpuTypes] in
/-- A non-zero number survives the trip through a plain one. -/
theorem non_zero_u32_val (n : Option {n : UInt32 // n ≠ 0}) :
    (n.map fun n => n.val).bind non_zero_u32 = n := by
  rcases n with _ | ⟨n, hn⟩
  · rfl
  · show non_zero_u32 n = some ⟨n, hn⟩
    rw [non_zero_u32, dif_pos hn]

/-- The vertex buffers are copied field by field, twice. -/
theorem vertex_buffers_copied (bs : List Wgpu.VertexBufferLayout) :
    (bs.map fun b => (⟨b.array_stride, b.step_mode, b.attributes⟩ : VertexBufferLayout)).map
      (fun b => (⟨b.array_stride, b.step_mode, b.attributes⟩ : Wgpu.VertexBufferLayout)) = bs := by
  rw [List.map_map]
  exact List.map_id bs

/-- A render pipeline arrives with default compilation options in both stages, and is otherwise
as given if it had these. -/
theorem render_pipeline_survives {t : ResourceTables}
    {desc : Wgpu.RenderPipelineDescriptor Wrapped} {w : RenderPipelineDescriptor}
    {d : Wgpu.RenderPipelineDescriptor Obj} (hw : Client.render_pipeline_descriptor desc = .ok w)
    (hd : Server.render_pipeline_descriptor t w = .ok d) :
    (d.vertex.compilation_options = .default ∧ ∀ s ∈ d.fragment, s.compilation_options = .default) ∧
      (desc.vertex.compilation_options = .default →
        (∀ s ∈ desc.fragment, s.compilation_options = .default) →
        desc.map (resolve t) = d.map resolved) := by
  obtain ⟨layout, hlayout, hw⟩ := bind_eq_ok.mp hw
  obtain ⟨vertex, hvertex, hw⟩ := bind_eq_ok.mp hw
  obtain ⟨fragment, hfragment, hret⟩ := bind_eq_ok.mp hw
  cases hret
  obtain ⟨module, hmodule, hret⟩ := bind_eq_ok.mp hvertex
  cases hret
  obtain ⟨l, hl, hd⟩ := bind_eq_ok.mp hd
  obtain ⟨m, hm, hd⟩ := bind_eq_ok.mp hd
  obtain ⟨f, hf, hret⟩ := bind_eq_ok.mp hd
  cases hret
  obtain ⟨hdefault, hfrag⟩ := fragment_survives hfragment hf
  refine ⟨⟨rfl, hdefault⟩, fun hvopt hfopt => ?_⟩
  have hlay := optional_layout_survives hlayout hl
  have hmod := resolve_of_custom_id hmodule hm
  simp only [Wgpu.RenderPipelineDescriptor.map, Wgpu.VertexState.map, hlay, hmod, hfrag hfopt,
    hvopt, non_zero_u32_val, own_label, vertex_buffers_copied]

/-! ## One create call -/

/-- The action of a create call creates, and the server's wgpu call for it is
the application's call, over objects, if every stage asks for the defaults. -/
theorem create_survives {raw : UInt64} {req : CreateCall Wrapped} {a : Action} {cr : Creation}
    {t : ResourceTables} {call : Wgpu.Call}
    (hmap : ∀ desc, req = .create_buffer desc → desc.mapped_at_creation = false)
    (ha : create_action raw req = some a) (hc : creation a = some cr) (hcall : cr.call t = .ok call) :
    ∃ c : CreateCall Obj, call = c.issued ∧
      (∀ o ∈ c.compilation_options, o = .default) ∧
      ((∀ o ∈ req.compilation_options, o = .default) → c.map resolved = req.map (resolve t)) := by
  cases req with
  | create_buffer desc =>
      cases ha
      cases hc
      cases hcall
      refine ⟨.create_buffer _, rfl, by simp [CreateCall.compilation_options], fun _ => ?_⟩
      -- the one field the client overwrites is `false` already
      rw [shipped_buffer_descriptor, hmap desc rfl]
      rfl
  | create_texture desc =>
      cases ha
      cases hc
      cases hcall
      exact ⟨.create_texture _, rfl, by simp [CreateCall.compilation_options], fun _ => rfl⟩
  | create_view texture desc =>
      obtain ⟨h, hh, rfl⟩ := Option.map_eq_some_iff.mp ha
      cases hc
      obtain ⟨o, hl, rfl⟩ := map_eq_ok.mp hcall
      refine ⟨.create_view o _, rfl, by simp [CreateCall.compilation_options], fun _ => ?_⟩
      have hid : custom_id "texture" texture = .ok h.id := by
        rw [custom_id, hh]
      have hres := resolve_of_custom_id hid hl
      simp only [CreateCall.map, hres]
      rfl
  | create_sampler desc =>
      cases ha
      cases hc
      cases hcall
      exact ⟨.create_sampler _, rfl, by simp [CreateCall.compilation_options], fun _ => rfl⟩
  | create_shader_module desc =>
      obtain ⟨w, hw, rfl⟩ := Option.map_eq_some_iff.mp ha
      cases hc
      obtain ⟨label, source⟩ := desc
      rcases source with src | _
      · cases hw
        cases hcall
        exact ⟨.create_shader_module _, rfl, by simp [CreateCall.compilation_options], fun _ => rfl⟩
      · -- a source that is not WGSL was not sent in the first place
        cases hw
  | create_bind_group_layout desc =>
      cases ha
      cases hc
      cases hcall
      exact ⟨.create_bind_group_layout _, rfl, by simp [CreateCall.compilation_options], fun _ => rfl⟩
  | create_bind_group desc =>
      obtain ⟨w, hw, rfl⟩ := Option.map_eq_some_iff.mp ha
      cases hc
      obtain ⟨d, hd, rfl⟩ := map_eq_ok.mp hcall
      refine ⟨.create_bind_group d, rfl, by simp [CreateCall.compilation_options], fun _ => ?_⟩
      exact congrArg CreateCall.create_bind_group (bind_group_survives (toOption_eq_some hw) hd).symm
  | create_pipeline_layout desc =>
      obtain ⟨w, hw, rfl⟩ := Option.map_eq_some_iff.mp ha
      cases hc
      obtain ⟨d, hd, rfl⟩ := map_eq_ok.mp hcall
      refine ⟨.create_pipeline_layout d, rfl, by simp [CreateCall.compilation_options], fun _ => ?_⟩
      exact congrArg CreateCall.create_pipeline_layout
        (pipeline_layout_survives (toOption_eq_some hw) hd).symm
  | create_render_pipeline desc =>
      obtain ⟨w, hw, rfl⟩ := Option.map_eq_some_iff.mp ha
      cases hc
      obtain ⟨d, hd, rfl⟩ := map_eq_ok.mp hcall
      obtain ⟨⟨hv, hf⟩, hsame⟩ := render_pipeline_survives (toOption_eq_some hw) hd
      refine ⟨.create_render_pipeline d, rfl, ?_, fun hopt => ?_⟩
      -- the options of the vertex stage, then those of the fragment stage if there is one
      · intro o ho
        rcases List.mem_cons.mp ho with rfl | ho
        · exact hv
        · obtain ⟨s, hs, rfl⟩ := Option.map_eq_some_iff.mp (Option.mem_toList.mp ho)
          exact hf s hs
      · refine congrArg CreateCall.create_render_pipeline (hsame ?_ ?_).symm
        · exact hopt _ List.mem_cons_self
        · intro s hs
          refine hopt _ (List.mem_cons_of_mem _ (Option.mem_toList.mpr ?_))
          exact Option.map_eq_some_iff.mpr ⟨s, hs, rfl⟩
  | create_compute_pipeline desc =>
      obtain ⟨w, hw, rfl⟩ := Option.map_eq_some_iff.mp ha
      cases hc
      obtain ⟨d, hd, rfl⟩ := map_eq_ok.mp hcall
      obtain ⟨hdef, hsame⟩ := compute_pipeline_survives (toOption_eq_some hw) hd
      refine ⟨.create_compute_pipeline d, rfl, ?_, fun hopt => ?_⟩
      · intro o ho
        rw [List.mem_singleton.mp ho]
        exact hdef
      · exact congrArg CreateCall.create_compute_pipeline
          (hsame (hopt _ (List.mem_singleton_self _))).symm

/-- Every create action is one the engine makes something for. -/
theorem creation_of_create_action {raw : UInt64} {req : CreateCall Wrapped} {a : Action}
    (ha : create_action raw req = some a) : ∃ cr, creation a = some cr := by
  rcases req with desc | desc | ⟨texture, desc⟩ | desc | desc | desc | desc | desc | desc | desc
  all_goals
    first
    | (cases ha; exact ⟨_, rfl⟩)
    | (obtain ⟨w, -, rfl⟩ := Option.map_eq_some_iff.mp ha
       exact ⟨_, rfl⟩)

/-- What is issued tells wgpu's create calls apart. -/
theorem issued_inj {c c' : CreateCall Obj} (h : c.issued = c'.issued) : c = c' := by
  cases c <;> cases c' <;> cases h <;> rfl

/-- **Descriptors survive the trip, up to compilation options.** When a create
call's action is answered `Ok`, the server made one wgpu call for it, and that
call is the application's over the table objects exactly if every pipeline stage
of it asks for the default compilation options. -/
theorem descriptor_survives_iff (gpu : Gpu) (e : Engine) (raw : UInt64) (req : CreateCall Wrapped)
    (a : Action) (hmap : ∀ desc, req = .create_buffer desc → desc.mapped_at_creation = false)
    (ha : create_action raw req = some a) (hok : (e.handle gpu a).1 = some .Ok) :
    (∃ c : CreateCall Obj, (e.handle gpu a).2.log = e.log ++ [⟨⟨e.dispatched, 0⟩, c.issued⟩] ∧
      c.map resolved = req.map (resolve e.tables)) ↔
      ∀ o ∈ req.compilation_options, o = .default := by
  obtain ⟨cr, hc⟩ := creation_of_create_action ha
  -- an action answered `Ok` was admitted, so its descriptor resolved
  have hadm : Admitted a e.tables := by
    by_contra hno
    obtain ⟨-, r, hr, herr⟩ := handle_rejected gpu e a hno
    rw [hok] at hr
    cases hr
    rcases herr with ⟨what, n, h⟩ | ⟨-, message, h⟩
    · cases h
    · cases h
  obtain ⟨call, hcall⟩ := ((creation_resolves hc).ok_iff e.tables).mpr hadm
  have hlog : (e.handle gpu a).2.log = e.log ++ [⟨⟨e.dispatched, 0⟩, call⟩] := by
    have hexec := exec_creation (e.reply gpu) e.dispatched ⟨e.tables, []⟩ hc
    rw [hcall] at hexec
    rw [handle_eq gpu e a hexec]
    rfl
  obtain ⟨c, rfl, hdefault, hsame⟩ := create_survives hmap ha hc hcall
  constructor
  · rintro ⟨c', hlog', hc'⟩
    rw [hlog] at hlog'
    have hevent := List.singleton_inj.mp (List.append_cancel_left hlog')
    have hcc : c = c' := issued_inj (congrArg Wgpu.Event.call hevent)
    -- the server's call has default options, and the application's has the server's
    rw [← hcc] at hc'
    have hopts := congrArg CreateCall.compilation_options hc'
    rw [CreateCall.compilation_options_map, CreateCall.compilation_options_map] at hopts
    intro o ho
    rw [← hopts] at ho
    exact hdefault o ho
  · intro hopt
    exact ⟨c, hlog, hsame hopt⟩

end Descriptors

/-! ## A pipeline whose constants are lost -/

/-- A shader module of this backend, with id 1. -/
def module_one : Wrapped .ShaderModule := ⟨some ⟨⟨1⟩, 0⟩⟩

/-- A compute pipeline that overrides one constant. -/
def constant_pipeline [WgpuTypes] (options : PipelineCompilationOptions) : CreateCall Wrapped :=
  .create_compute_pipeline
    { label := none, layout := none, module := module_one, entry_point := some "main"
      compilation_options := options }

/-- An engine that holds a shader module under id 1. -/
def engine_with_module [WgpuTypes] : Engine where
  tables := ResourceTables.insert ResourceTables.empty (⟨1⟩ : ShaderModuleId) ⟨⟨0, 0⟩⟩
  log := []
  dispatched := 1

/-- The action the drop-in sends for it, under id 1. -/
def constant_pipeline_action [WgpuTypes] (options : PipelineCompilationOptions) : Action :=
  .CreateComputePipeline ⟨1⟩
    { label := none, layout := none, module := ⟨1⟩, entry_point := some "main"
      constants := options.constants }

/-- The default options arrive. -/
theorem default_pipeline_survives :
    letI := WgpuTypes.numeric
    ∃ c : CreateCall Obj,
      (engine_with_module.handle idle_gpu (constant_pipeline_action .default)).2.log =
        engine_with_module.log ++ [⟨⟨1, 0⟩, c.issued⟩] ∧
      c.map resolved = (constant_pipeline .default).map (resolve engine_with_module.tables) := by
  let _ := WgpuTypes.numeric
  have hiff := descriptor_survives_iff idle_gpu engine_with_module 1 (constant_pipeline .default)
    (constant_pipeline_action .default) (fun _ h => by cases h) rfl rfl
  refine hiff.mpr fun o ho => ?_
  exact List.mem_singleton.mp ho

/-- A constant does not. -/
theorem constant_pipeline_lost :
    letI := WgpuTypes.numeric
    ¬ ∀ (gpu : Gpu) (e : Engine) (raw : UInt64) (req : CreateCall Wrapped) (a : Action),
      (∀ desc, req = .create_buffer desc → desc.mapped_at_creation = false) →
      create_action raw req = some a → (e.handle gpu a).1 = some .Ok →
      ∃ c : CreateCall Obj, (e.handle gpu a).2.log = e.log ++ [⟨⟨e.dispatched, 0⟩, c.issued⟩] ∧
        c.map resolved = req.map (resolve e.tables) := by
  let _ := WgpuTypes.numeric
  intro h
  obtain ⟨c, hlog, hc⟩ := h idle_gpu engine_with_module 1
    (constant_pipeline ⟨[("x", 1)], true⟩) _ (fun _ h => by cases h) rfl rfl
  have hevent := List.singleton_inj.mp (List.append_cancel_left hlog)
  have hcall := congrArg Wgpu.Event.call hevent
  rcases c with _ | _ | _ | _ | _ | _ | _ | _ | _ | desc
  all_goals first | (cases hcall; done) | skip
  cases hcall
  cases hc

end WgpuRemote
