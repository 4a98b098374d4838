import TagSpacing.Proofs.Window

/-! Which tag a selection sits in, told from the line on which it starts and the line on which it
ends. -/
namespace TagSpacing

namespace Tag

/-- What is typed in front of the text of a tag. -/
def typedFront : Tag → Text
  | double => ['{', '{']
  | triple => ['{', '{', ' ', '{']
  | unescaped => ['{', '!', '!']
  | comment => ['{', '{', ' ', '-', '-']

/-- Number of characters of a typed tag in front of the selection that it is typed with. -/
def inset : Tag → Nat
  | double => 1
  | triple => 3
  | unescaped => 2
  | comment => 4

theorem length_typedFront (tag : Tag) : tag.typedFront.length = tag.inset + 1 := by
  cases tag <;> rfl

/-- The openings differ in their last two characters. -/
theorem eq_of_drop_typedFront {tag tag' : Tag}
    (h : tag.typedFront.drop (tag.inset - 1) = tag'.typedFront.drop (tag'.inset - 1)) :
    tag = tag' := by
  revert h
  cases tag <;> cases tag' <;> decide

end Tag

namespace Text

/-- The tag that line `l` shows to a selection from its column `c` to column `d` of line `m`: the
last character of the tag's opening stands at column `c`, and the opening of a comment is no double
tag. -/
inductive Shows (l : Text) (c : Nat) (m : Text) (d : Nat) : Tag → Prop
  | double (hc : 1 ≤ c) (hl : c < l.length) (hopen : l.slice (c - 1) (c + 1) = ['{', '{'])
      (hdashes : m.slice (d + 1) (d + 3) ≠ ['-', '-']) : Shows l c m d .double
  | triple (hc : 3 ≤ c) (hl : c < l.length)
      (hopen : l.slice (c - 3) (c + 1) = ['{', '{', ' ', '{']) : Shows l c m d .triple
  | unescaped (hc : 2 ≤ c) (hl : c < l.length)
      (hopen : l.slice (c - 2) (c + 1) = ['{', '!', '!']) : Shows l c m d .unescaped
  | comment (hc : 4 ≤ c) (hl : c < l.length)
      (hopen : l.slice (c - 4) (c + 1) = ['{', '{', ' ', '-', '-']) : Shows l c m d .comment

/-- Whether the opening of a tag ends at a column of a line. -/
def Opens (l : Text) (c : Nat) (tag : Tag) : Prop :=
  tag.inset ≤ c ∧ c < l.length ∧ l.slice (c - tag.inset) (c + 1) = tag.typedFront

instance (l : Text) (c : Nat) (tag : Tag) : Decidable (l.Opens c tag) :=
  inferInstanceAs (Decidable (_ ∧ _ ∧ _))

variable {t l m : Text} {s : Selection} {tag tag' : Tag} {c d : Nat}

theorem shows_iff :
    l.Shows c m d tag ↔
      l.Opens c tag ∧ (tag = .double → m.slice (d + 1) (d + 3) ≠ ['-', '-']) := by
  constructor
  · intro h
    cases h with
    | double hc hl hopen hdashes => exact ⟨⟨hc, hl, hopen⟩, fun _ => hdashes⟩
    | triple hc hl hopen => exact ⟨⟨hc, hl, hopen⟩, fun h => nomatch h⟩
    | unescaped hc hl hopen => exact ⟨⟨hc, hl, hopen⟩, fun h => nomatch h⟩
    | comment hc hl hopen => exact ⟨⟨hc, hl, hopen⟩, fun h => nomatch h⟩
  · rintro ⟨⟨hc, hl, hopen⟩, hdashes⟩
    cases tag with
    | double => exact .double hc hl hopen (hdashes rfl)
    | triple => exact .triple hc hl hopen
    | unescaped => exact .unescaped hc hl hopen
    | comment => exact .comment hc hl hopen

/-- A window that does not fit holds one character at most, which is no opening. -/
theorem lookBehind_eq_typedFront_iff :
    l.lookBehind c tag.inset = tag.typedFront ↔ l.Opens c tag := by
  constructor
  · intro h
    have hlen := congrArg List.length h
    rw [tag.length_typedFront, lookBehind, length_slice] at hlen
    by_cases hc : tag.inset ≤ c
    · rw [if_pos hc] at hlen
      rw [lookBehind, if_pos hc] at h
      exact ⟨hc, by omega, h⟩
    · rw [if_neg hc] at hlen
      omega
  · rintro ⟨hc, _, h⟩
    rw [lookBehind, if_pos hc]
    exact h

/-- A shorter window at the same column shows the end of the opening. -/
theorem Opens.lookBehind (h : l.Opens c tag) (hd : d ≤ tag.inset) :
    l.lookBehind c d = tag.typedFront.drop (tag.inset - d) := by
  obtain ⟨hc, _, hopen⟩ := h
  have hcol : c - tag.inset + (tag.inset - d) = c - d := by omega
  rw [← hopen, drop_slice, hcol, Text.lookBehind, if_pos (by omega)]

theorem Opens.unique (h : l.Opens c tag) (h' : l.Opens c tag') : tag = tag' := by
  have hinset : ∀ tag : Tag, 1 ≤ tag.inset := by
    intro tag
    cases tag <;> decide
  apply Tag.eq_of_drop_typedFront
  rw [← h.lookBehind (hinset tag), h'.lookBehind (hinset tag')]

theorem textIn_near_eq_typedFront_iff (t : Text) (line : Nat) (tag : Tag)
    (hc : c + 1 < Position.columnBound) :
    t.textIn (.near ⟨line, c⟩ (-tag.inset) 1) = tag.typedFront ↔ (t.content line).Opens c tag := by
  rw [textIn_near_back t line tag.inset hc, lookBehind_eq_typedFront_iff]

/-- Below the greatest column the rules see the line as it is. At most one opening ends at a column,
so that neither the order of the rules nor what they ask of the first character matters. -/
theorem tagAt_eq_some_iff (hc : s.start.character + 1 < Position.columnBound) :
    t.tagAt s = some tag ↔
      (t.content s.start.line).Opens s.start.character tag ∧
        (tag = .double → t.textIn (.near s.stop 1 3) ≠ ['-', '-']) := by
  have hdouble : t.textIn (.near s.start (-1) 1) = ['{', '{'] ↔
      (t.content s.start.line).Opens s.start.character .double :=
    textIn_near_eq_typedFront_iff t s.start.line .double hc
  have htriple : t.textIn (.near s.start (-3) 1) = ['{', '{', ' ', '{'] ↔
      (t.content s.start.line).Opens s.start.character .triple :=
    textIn_near_eq_typedFront_iff t s.start.line .triple hc
  have hunescaped : t.textIn (.near s.start (-2) 1) = ['{', '!', '!'] ↔
      (t.content s.start.line).Opens s.start.character .unescaped :=
    textIn_near_eq_typedFront_iff t s.start.line .unescaped hc
  have hcomment : t.textIn (.near s.start (-4) 1) = ['{', '{', ' ', '-', '-'] ↔
      (t.content s.start.line).Opens s.start.character .comment :=
    textIn_near_eq_typedFront_iff t s.start.line .comment hc
  rw [tagAt, Window.around, Window.classify]
  simp only [hdouble, htriple, hunescaped, hcomment]
  by_cases h : ∃ tag', (t.content s.start.line).Opens s.start.character tag'
  · obtain ⟨tag', h⟩ := h
    have hopens : ∀ tag, (t.content s.start.line).Opens s.start.character tag ↔ tag = tag' :=
      fun tag => ⟨fun ht => ht.unique h, fun he => he ▸ h⟩
    have hfirst : t.textIn (.near s.start 0 1) = tag'.typedFront.drop tag'.inset :=
      (textIn_near_back t s.start.line 0 hc).trans (h.lookBehind (Nat.zero_le _))
    simp only [hopens, hfirst]
    cases tag' <;> cases tag <;> simp [Tag.typedFront, Tag.inset]
  · have hopens : ∀ tag, ¬ (t.content s.start.line).Opens s.start.character tag :=
      fun tag ht => h ⟨tag, ht⟩
    simp [hopens]

/-- A selection sits in the tag that its lines show to it, and in none if they show none. -/
theorem tagAt_iff_shows (t : Text) (s : Selection)
    (hanchor : s.anchor.character ≤ Position.columnBound - 4)
    (hactive : s.active.character ≤ Position.columnBound - 4) :
    (∀ tag, t.tagAt s = some tag ↔
      (t.content s.start.line).Shows s.start.character (t.content s.stop.line) s.stop.character
        tag) ∧
    (t.tagAt s = none ↔ ∀ tag,
      ¬ (t.content s.start.line).Shows s.start.character (t.content s.stop.line) s.stop.character
        tag) := by
  have hbound : 4 < Position.columnBound := by decide
  have hstart : s.start.character + 1 < Position.columnBound := by
    rcases s.start_stop_cases with ⟨_, h, _⟩ | ⟨_, h, _⟩ <;> rw [h] <;> omega
  have hstop : s.stop.character + 3 < Position.columnBound := by
    rcases s.start_stop_cases with ⟨_, _, h⟩ | ⟨_, _, h⟩ <;> rw [h] <;> omega
  have hafter : t.textIn (.near s.stop 1 3) = (t.content s.stop.line).slice (s.stop.character + 1)
      (s.stop.character + 3) := textIn_near_ahead (k := 3) t (by omega) hstop
  have hsome : ∀ tag, t.tagAt s = some tag ↔ (t.content s.start.line).Shows s.start.character
      (t.content s.stop.line) s.stop.character tag := by
    intro tag
    rw [tagAt_eq_some_iff hstart, shows_iff, hafter]
  refine ⟨hsome, ?_⟩
  simp only [← hsome, Option.eq_none_iff_forall_ne_some]

/-- The selection is reversed and reaches over the end of the line, where no dashes follow. -/
theorem tagAt_iff_shows_next_line :
    let t : Text := ['{', '{', '-', '-', '\r', '\n', 'a']
    let s : Selection := ⟨⟨1, 1⟩, ⟨0, 1⟩⟩
    s.anchor.character ≤ Position.columnBound - 4 ∧ s.active.character ≤ Position.columnBound - 4 ∧
      t.tagAt s = some .double := by
  intro t s
  have hanchor : s.anchor.character ≤ Position.columnBound - 4 := by decide
  have hactive : s.active.character ≤ Position.columnBound - 4 := by decide
  refine ⟨hanchor, hactive, ((tagAt_iff_shows t s hanchor hactive).1 .double).mpr ?_⟩
  exact .double (by decide) (by decide) (by decide) (by decide)

end Text

end TagSpacing
