import Mathlib.Tactic

/-!
# Packing frames into packets

Frames are appended to a packet until the next one might not fit; the packet is then sent and a new
one is started. No frame is split, and the room that is asked for may exceed the frame.

* `Packer.push`, `Packer.pushAll`: append one frame, or several in a row;
* **`Packer.stream_pushAll`**: the packets, one after the other, are the frames in order;
* **`Packer.fits_pushAll`**: no packet exceeds the limit.
-/

namespace BmcLib

/-- The packets that were sent, and the one that is being filled. -/
@[ext]
structure Packer (α : Type*) where
  sent : List (List α)
  filling : List α

namespace Packer

variable {α : Type*} {max : ℕ}

/-- A packer that has sent nothing. -/
def empty : Packer α := ⟨[], []⟩

/-- Append a frame for which `need` cells must be free. -/
def push (max need : ℕ) (frame : List α) (p : Packer α) : Packer α :=
  if need + p.filling.length > max then ⟨p.sent ++ [p.filling], frame⟩
  else ⟨p.sent, p.filling ++ frame⟩

/-- Append several frames, each one with the room that it asks for. -/
def pushAll (max : ℕ) (frames : List (ℕ × List α)) (p : Packer α) : Packer α :=
  frames.foldl (fun p f => p.push max f.1 f.2) p

/-- What the receiver of all packets reads. -/
def stream (p : Packer α) : List α := p.sent.flatten ++ p.filling

/-- No packet exceeds `max`. -/
structure Fits (max : ℕ) (p : Packer α) : Prop where
  sent : ∀ q ∈ p.sent, q.length ≤ max
  filling : p.filling.length ≤ max

@[simp] theorem pushAll_nil (p : Packer α) : p.pushAll max [] = p := rfl

@[simp] theorem pushAll_cons (p : Packer α) (f : ℕ × List α) (fs : List (ℕ × List α)) :
    p.pushAll max (f :: fs) = (p.push max f.1 f.2).pushAll max fs := rfl

theorem pushAll_append (p : Packer α) (fs gs : List (ℕ × List α)) :
    p.pushAll max (fs ++ gs) = (p.pushAll max fs).pushAll max gs :=
  List.foldl_append

@[simp] theorem stream_empty : (empty : Packer α).stream = [] := rfl

@[simp] theorem stream_push (p : Packer α) (need : ℕ) (frame : List α) :
    (p.push max need frame).stream = p.stream ++ frame := by
  unfold push stream
  split_ifs <;> simp

/-- **Nothing is lost, repeated or reordered.** -/
theorem stream_pushAll (p : Packer α) (fs : List (ℕ × List α)) :
    (p.pushAll max fs).stream = p.stream ++ fs.flatMap Prod.snd := by
  induction fs generalizing p with
  | nil => simp
  | cons f fs ih => rw [pushAll_cons, ih, stream_push, List.flatMap_cons, List.append_assoc]

theorem fits_empty : Fits max (empty : Packer α) :=
  ⟨fun _ h => absurd h List.not_mem_nil, Nat.zero_le max⟩

theorem fits_push {p : Packer α} (hp : p.Fits max) {need : ℕ} {frame : List α}
    (hframe : frame.length ≤ need) (hneed : need ≤ max) : (p.push max need frame).Fits max := by
  unfold push
  split_ifs with hfull
  · refine ⟨fun q hq => ?_, hframe.trans hneed⟩
    rcases List.mem_append.mp hq with hq | hq
    · exact hp.sent q hq
    · rw [List.mem_singleton.mp hq]
      exact hp.filling
  · refine ⟨hp.sent, ?_⟩
    rw [List.length_append]
    omega

/-- **No packet gets too long.** -/
theorem fits_pushAll {p : Packer α} (hp : p.Fits max) {fs : List (ℕ × List α)}
    (hfs : ∀ f ∈ fs, f.2.length ≤ f.1 ∧ f.1 ≤ max) : (p.pushAll max fs).Fits max := by
  induction fs generalizing p with
  | nil => exact hp
  | cons f fs ih =>
    obtain ⟨hframe, hneed⟩ := hfs f List.mem_cons_self
    exact ih (fits_push hp hframe hneed) fun g hg => hfs g (List.mem_cons_of_mem f hg)

end Packer

end BmcLib
