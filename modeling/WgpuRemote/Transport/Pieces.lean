/-
`read_frame` while it is in progress.

`read_frame` suspends whenever the stream has nothing for it, with a part of the
frame in its buffers. What it still asks for then is the rest of the header, or the
rest of the body once the header is there (`frame_need`). It ends when nothing is
needed, and what it returns are the frames in the sense of `Pipe`
(`framed_iff_read_frame`).
-/
import WgpuRemote.Lib.Pipe
import WgpuRemote.Transport.Receive

set_option autoImplicit false

namespace WgpuRemote

open Bincode
open Pipe (Framed)

/-- How many bytes the `read_exact` that is under way lacks, if the stream has
delivered `got` so far. -/
def frame_need (got : Bytes) : ℕ :=
  if got.length < 4 then 4 - got.length else 4 + announced got - got.length

theorem frame_need_nil : 0 < frame_need [] := by decide

/-- A body of the announced length, behind its header. -/
theorem framed_of_announced {raw : Bytes} (h : raw.length = 4 + announced raw) :
    Framed frame_need raw where
  whole := by
    unfold frame_need
    rw [if_neg (by omega)]
    omega
  within p hp hne := by
    -- a prefix that is not the frame is shorter
    have hlt : p.length < raw.length := by
      have hle := hp.length_le
      have hlen : p.length ≠ raw.length := fun heq => hne (hp.eq_of_length heq)
      omega
    unfold frame_need
    by_cases h4 : p.length < 4
    · rw [if_pos h4]
      omega
    · -- the header is there, so the announced length is known
      have hheader : announced p = announced raw := by
        obtain ⟨rest, rfl⟩ := hp
        unfold announced
        rw [List.take_append_of_le_length (by omega)]
      rw [if_neg h4, hheader]
      omega

theorem announced_of_framed {raw : Bytes} (h : Framed frame_need raw) :
    raw.length = 4 + announced raw := by
  have hwhole := h.whole
  unfold frame_need at hwhole
  by_cases h4 : raw.length < 4
  · rw [if_pos h4] at hwhole
    omega
  · rw [if_neg h4] at hwhole
    by_contra hlen
    -- the bytes up to the end of the body would do
    have hne : raw.take (4 + announced raw) ≠ raw := by
      intro heq
      have hshort := congrArg List.length heq
      rw [List.length_take] at hshort
      omega
    obtain ⟨hpos, -⟩ := h.within _ (List.take_prefix _ _) hne
    unfold frame_need at hpos
    rw [List.length_take, announced_take, Nat.min_eq_left (by omega), if_neg (by omega)] at hpos
    omega

/-- `read_frame` does not return while something is needed. -/
theorem read_frame_waits {src : Source} (h : frame_need src.flatten ≠ 0) :
    read_frame src = .error .UnexpectedEof := by
  unfold frame_need at h
  rw [← read_frame_buffering_snd]
  by_cases h4 : src.flatten.length < 4
  · rw [read_frame_buffering_short h4]
  · rw [if_neg h4] at h
    rw [read_frame_buffering_cut (by omega) (by omega)]

/-- **It returns once nothing is**, and leaves what it did not ask for. -/
theorem framed_iff_read_frame (src : Source) :
    Framed frame_need src.flatten ↔
      ∃ src', read_frame src = .ok (src.flatten, src') ∧ src'.flatten = [] := by
  constructor
  · intro h
    have hlen := announced_of_framed h
    obtain ⟨src', hread, hrest⟩ := read_frame_buffering_whole (Nat.le_of_eq hlen.symm)
    rw [← hlen, List.take_length] at hread
    rw [← hlen, List.drop_length] at hrest
    refine ⟨src', ?_, hrest⟩
    rw [← read_frame_buffering_snd, hread]
  · rintro ⟨src', hread, -⟩
    have hwhole : frame_need src.flatten = 0 := by
      by_contra hne
      rw [read_frame_waits hne] at hread
      cases hread
    have hle : 4 + announced src.flatten ≤ src.flatten.length := by
      unfold frame_need at hwhole
      by_cases h4 : src.flatten.length < 4
      · rw [if_pos h4] at hwhole
        omega
      · rw [if_neg h4] at hwhole
        omega
    obtain ⟨rest, hbuffered, -⟩ := read_frame_buffering_whole hle
    rw [← read_frame_buffering_snd, hbuffered] at hread
    have hall := congrArg List.length (Prod.mk.inj (Except.ok.inj hread)).1
    rw [List.length_take, Nat.min_eq_left hle] at hall
    exact framed_of_announced hall.symm

/-- What `encode_frame` returns is a frame. -/
theorem framed_encode_frame {α : Type} (c : Codec α) {value : α} {bs : Bytes}
    (h : encode_frame c value = .ok bs) : Framed frame_need bs := by
  obtain ⟨body, -, hcap, rfl⟩ := encode_frame_ok c h
  apply framed_of_announced
  have htake : (to_be_bytes body.length ++ body).take 4 = to_be_bytes body.length :=
    List.take_left' (to_be_bytes_length _)
  unfold announced
  rw [htake, from_be_bytes_header hcap, List.length_append, to_be_bytes_length]

end WgpuRemote
