import Mathlib
import TagSpacing.Regex.Search

/-! Ways through a program. A program is a graph of steps; a match is a way from the first step to one
that accepts. -/
namespace TagSpacing.Regex

/-- The place at an offset of a text. -/
def placeAt (t : Text) (offset : Nat) : Place :=
  ⟨offset, if offset = 0 then none else t[offset - 1]?, t[offset]?⟩

/-- The steps that can follow a step without taking a character, and what is noted on the way. -/
inductive Slides (program : Program) (place : Place) : Nat → List (Nat × Nat) → Nat → Prop
  | jump {step target : Nat} (h : program[step]? = some (.jump target)) :
    Slides program place step [] target
  | first {step first second : Nat} (h : program[step]? = some (.branch first second)) :
    Slides program place step [] first
  | second {step first second : Nat} (h : program[step]? = some (.branch first second)) :
    Slides program place step [] second
  | mark {step slot : Nat} (h : program[step]? = some (.mark slot)) :
    Slides program place step [(slot, place.offset)] (step + 1)
  | look {step : Nat} {look : Look} {ascii : Bool} (h : program[step]? = some (.look look ascii))
    (hlook : look.holds (wordChar ascii) place.before place.after = true) :
    Slides program place step [] (step + 1)

/-- A way from a step at an offset to a step at an offset, and what is noted on it, the latest
first. -/
inductive Path (program : Program) (t : Text) : Nat → Nat → List (Nat × Nat) → Nat → Nat → Prop
  | refl (step offset : Nat) : Path program t step offset [] step offset
  | slide {step offset step' last stop : Nat} {marks marks' : List (Nat × Nat)}
    (h : Slides program (placeAt t offset) step marks step')
    (hp : Path program t step' offset marks' last stop) :
    Path program t step offset (marks' ++ marks) last stop
  | take {step offset last stop : Nat} {marks : List (Nat × Nat)} {s : CharSet} {c : Char}
    (h : program[step]? = some (.take s)) (hc : t[offset]? = some c) (hs : s.contains c = true)
    (hp : Path program t (step + 1) (offset + 1) marks last stop) :
    Path program t step offset marks last stop

variable {program : Program} {t : Text} {place : Place} {n step last offset stop : Nat}
  {marks : List (Nat × Nat)}

namespace Path

variable {step' : Nat}

theorem trans {last stop' : Nat} {marks' : List (Nat × Nat)}
    (h : Path program t step offset marks step' stop)
    (h' : Path program t step' stop marks' last stop') :
    Path program t step offset (marks' ++ marks) last stop' := by
  induction h with
  | refl => rwa [List.append_nil]
  | slide hslide _ ih =>
    rw [← List.append_assoc]
    exact .slide hslide (ih h')
  | take hstep hc hs _ ih => exact .take hstep hc hs (ih h')

theorem le (h : Path program t step offset marks step' stop) : offset ≤ stop := by
  induction h with
  | refl => exact Nat.le_refl _
  | slide _ _ ih => exact ih
  | take _ _ _ _ ih => omega

end Path

/-- Whether a match is a way through the whole program, within the text. -/
def Accepts (program : Program) (t : Text) (m : Match) : Prop :=
  m.stop ≤ t.length ∧
    ∃ last, Path program t 0 m.start m.marks last m.stop ∧ program[last]? = some .accept

/-- Whether a step at an offset can still lead to a match. -/
def Live (program : Program) (t : Text) (step offset : Nat) : Prop :=
  ∃ marks last stop, Path program t step offset marks last stop ∧ program[last]? = some .accept

/-- Whether a step waits for the next character or accepts. -/
def Rests (program : Program) (step : Nat) : Prop :=
  (∃ s, program[step]? = some (.take s)) ∨ program[step]? = some .accept

/-- What a step does that takes no character. -/
theorem slides_iff {place : Place} {step' : Nat} {i : Instruction} (h : program[step]? = some i) :
    Slides program place step marks step' ↔
      match i with
      | .jump target => marks = [] ∧ step' = target
      | .branch first second => marks = [] ∧ (step' = first ∨ step' = second)
      | .mark slot => marks = [(slot, place.offset)] ∧ step' = step + 1
      | .look look ascii =>
        look.holds (wordChar ascii) place.before place.after = true ∧ marks = [] ∧ step' = step + 1
      | .take _ | .accept => False := by
  constructor
  · intro hslide
    cases hslide with
    | jump h' =>
      cases h.symm.trans h'
      exact ⟨rfl, rfl⟩
    | first h' =>
      cases h.symm.trans h'
      exact ⟨rfl, Or.inl rfl⟩
    | second h' =>
      cases h.symm.trans h'
      exact ⟨rfl, Or.inr rfl⟩
    | mark h' =>
      cases h.symm.trans h'
      exact ⟨rfl, rfl⟩
    | look h' hlook =>
      cases h.symm.trans h'
      exact ⟨hlook, rfl, rfl⟩
  · intro hslide
    cases i with
    | jump target =>
      obtain ⟨rfl, rfl⟩ := hslide
      exact .jump h
    | branch first second =>
      obtain ⟨rfl, rfl | rfl⟩ := hslide
      · exact .first h
      · exact .second h
    | mark slot =>
      obtain ⟨rfl, rfl⟩ := hslide
      exact .mark h
    | look look ascii =>
      obtain ⟨hlook, rfl, rfl⟩ := hslide
      exact .look h hlook
    | take s => exact hslide.elim
    | accept => exact hslide.elim

theorem Slides.exists_instruction {marks : List (Nat × Nat)} {step' : Nat}
    (h : Slides program place step marks step') : ∃ i, program[step]? = some i := by
  cases h with
  | jump h => exact ⟨_, h⟩
  | first h => exact ⟨_, h⟩
  | second h => exact ⟨_, h⟩
  | mark h => exact ⟨_, h⟩
  | look h _ => exact ⟨_, h⟩

theorem Rests.not_slides {step' : Nat} (h : Rests program step) :
    ¬ Slides program place step marks step' := by
  intro hslide
  rcases h with ⟨s, h⟩ | h
  · exact (slides_iff h).mp hslide
  · exact (slides_iff h).mp hslide

/-- A way of so many steps from a step at an offset to a step at an offset, and what is noted on
it, the latest first. -/
inductive Walk (program : Program) (t : Text) :
    Nat → Nat → Nat → List (Nat × Nat) → Nat → Nat → Prop
  | refl (step offset : Nat) : Walk program t 0 step offset [] step offset
  | slide {n step offset step' last stop : Nat} {marks marks' : List (Nat × Nat)}
    (h : Slides program (placeAt t offset) step marks step')
    (hw : Walk program t n step' offset marks' last stop) :
    Walk program t (n + 1) step offset (marks' ++ marks) last stop
  | take {n step offset last stop : Nat} {marks : List (Nat × Nat)} {s : CharSet} {c : Char}
    (h : program[step]? = some (.take s)) (hc : t[offset]? = some c) (hs : s.contains c = true)
    (hw : Walk program t n (step + 1) (offset + 1) marks last stop) :
    Walk program t (n + 1) step offset marks last stop

theorem Path.exists_walk (h : Path program t step offset marks last stop) :
    ∃ n, Walk program t n step offset marks last stop := by
  induction h with
  | refl step offset => exact ⟨0, .refl step offset⟩
  | slide hslide _ ih =>
    obtain ⟨n, hw⟩ := ih
    exact ⟨n + 1, .slide hslide hw⟩
  | take hstep hc hs _ ih =>
    obtain ⟨n, hw⟩ := ih
    exact ⟨n + 1, .take hstep hc hs hw⟩

namespace Walk

/-- A way on from a step either takes a character there or slides. -/
theorem of_lt (hw : Walk program t n step offset marks last stop)
    (hlast : program[last]? = some .accept) {i : Instruction} (hstep : program[step]? = some i)
    (haccept : i ≠ .accept) :
    (∃ n' < n, ∃ s c, i = .take s ∧ t[offset]? = some c ∧ s.contains c = true ∧
        Walk program t n' (step + 1) (offset + 1) marks last stop) ∨
      ∃ n' < n, ∃ inner step' outer, Slides program (placeAt t offset) step inner step' ∧
        Walk program t n' step' offset outer last stop ∧ marks = outer ++ inner := by
  cases hw with
  | refl =>
    cases hstep.symm.trans hlast
    exact (haccept rfl).elim
  | @slide n _ _ step' _ _ inner outer hslide hw =>
    exact Or.inr ⟨n, Nat.lt_succ_self n, inner, step', outer, hslide, hw, rfl⟩
  | @take n _ _ _ _ _ s c hstep' hc hs hw =>
    exact Or.inl ⟨n, Nat.lt_succ_self n, s, c, Option.some.inj (hstep.symm.trans hstep'), hc, hs, hw⟩

/-- A way on from a step that takes no character slides. -/
theorem exists_slides (hw : Walk program t n step offset marks last stop)
    (hlast : program[last]? = some .accept) {i : Instruction} (hstep : program[step]? = some i)
    (htake : ∀ s, i ≠ .take s) (haccept : i ≠ .accept) :
    ∃ n' < n, ∃ inner step' outer, Slides program (placeAt t offset) step inner step' ∧
      Walk program t n' step' offset outer last stop ∧ marks = outer ++ inner := by
  rcases hw.of_lt hlast hstep haccept with ⟨_, _, s, _, hs, _⟩ | hslides
  · exact (htake s hs).elim
  · exact hslides

/-- A way that begins where it is accepted ends there. -/
theorem of_accept (hw : Walk program t n step offset marks last stop)
    (hstep : program[step]? = some .accept) : step = last ∧ marks = [] ∧ stop = offset := by
  cases hw with
  | refl => exact ⟨rfl, rfl, rfl⟩
  | slide hslide _ => exact ((slides_iff hstep).mp hslide).elim
  | take htake _ _ _ => cases hstep.symm.trans htake

end Walk

end TagSpacing.Regex
