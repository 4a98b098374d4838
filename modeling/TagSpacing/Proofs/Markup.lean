import TagSpacing.Proofs.Insertion
import TagSpacing.Proofs.Grammar

/-! The markup of the tags as it is typed and as it is spaced out: a selection in the first kind is
recognised, and the insertion at it writes the second kind. -/
namespace TagSpacing

namespace Tag

/-- What is typed behind the text of a tag. -/
def typedBack : Tag → Text
  | double => ['}', '}']
  | triple => ['}', ' ', '}', '}']
  | unescaped => ['}']
  | comment => [' ', '}', '}']

/-- What stands in front of the text of a tag once it is spaced out. -/
def spacedFront : Tag → Text
  | double => ['{', '{', ' ']
  | triple => ['{', '{', '{', ' ']
  | unescaped => ['{', '!', '!', ' ']
  | comment => ['{', '{', '-', '-', ' ']

/-- What stands behind the text of a tag once it is spaced out. -/
def spacedBack : Tag → Text
  | double => [' ', '}', '}']
  | triple => [' ', '}', '}', '}']
  | unescaped => [' ', '!', '!', '}']
  | comment => [' ', '-', '-', '}', '}']

def typed (tag : Tag) (x : Text) : Text := tag.typedFront ++ x ++ tag.typedBack

def spaced (tag : Tag) (x : Text) : Text := tag.spacedFront ++ x ++ tag.spacedBack

/-- The part of the typed markup in front of what an expansion replaces. -/
def rimFront : Tag → Text
  | double | triple | comment => ['{', '{']
  | unescaped => ['{', '!']

/-- The part of the typed markup that is replaced in front of the text. -/
def innerFront : Tag → Text
  | double => []
  | triple => [' ', '{']
  | unescaped => ['!']
  | comment => [' ', '-', '-']

/-- The part of the typed markup that is replaced behind the text. -/
def innerBack : Tag → Text
  | double | unescaped => []
  | triple => ['}', ' ']
  | comment => [' ']

/-- The part of the typed markup behind what an expansion replaces. -/
def rimBack : Tag → Text
  | double | triple | comment => ['}', '}']
  | unescaped => ['}']

variable {tag : Tag} {x : Text}

theorem typed_eq (tag : Tag) (x : Text) :
    tag.typed x = tag.rimFront ++ (tag.innerFront ++ x ++ tag.innerBack) ++ tag.rimBack := by
  cases tag <;> simp [typed, typedFront, typedBack, rimFront, innerFront, innerBack, rimBack]

theorem spaced_eq (tag : Tag) (x : Text) :
    tag.spaced x = tag.rimFront ++ (tag.opening ++ x ++ tag.closing) ++ tag.rimBack := by
  cases tag <;> simp [spaced, spacedFront, spacedBack, rimFront, opening, closing, rimBack]

/-- The template takes out just the characters of the markup that is replaced. -/
theorem kept_inner (tag : Tag) (x : Text) :
    tag.kept (tag.innerFront ++ x ++ tag.innerBack) = tag.kept x := by
  have hfront : tag.kept tag.innerFront = [] := by cases tag <;> rfl
  have hback : tag.kept tag.innerBack = [] := by cases tag <;> rfl
  unfold kept at *
  rw [List.filter_append, List.filter_append, hfront, hback, List.nil_append, List.append_nil]

theorem inset_add_one (tag : Tag) :
    tag.inset + 1 = tag.rimFront.length + tag.innerFront.length := by
  cases tag <;> rfl

theorem length_spacedFront (tag : Tag) :
    tag.spacedFront.length = tag.rimFront.length + tag.opening.length := by
  cases tag <;> rfl

theorem offsets_eq (tag : Tag) :
    tag.offsets = (1 - (tag.innerFront.length : Int), 1 + (tag.innerBack.length : Int)) := by
  cases tag <;> rfl

theorem typed_ne_nil (tag : Tag) (x : Text) : tag.typed x ≠ [] := by
  cases tag <;> simp [typed, typedFront]

theorem spaced_ne_nil (tag : Tag) (x : Text) : tag.spaced x ≠ [] := by
  cases tag <;> simp [spaced, spacedFront]

theorem length_typed (tag : Tag) (x : Text) :
    (tag.typed x).length =
      tag.inset + 1 + x.length + tag.innerBack.length + tag.rimBack.length := by
  rw [typed_eq, inset_add_one]
  simp only [List.length_append]
  omega

theorem isLineBreak_frame {front back : Text} (hfront : ∀ c ∈ front, isLineBreak c = false)
    (hback : ∀ c ∈ back, isLineBreak c = false) (hx : ∀ c ∈ x, isLineBreak c = false) :
    ∀ c ∈ front ++ x ++ back, isLineBreak c = false := by
  intro c hc
  rw [List.mem_append, List.mem_append] at hc
  rcases hc with (hc | hc) | hc
  · exact hfront c hc
  · exact hx c hc
  · exact hback c hc

theorem isLineBreak_typed (tag : Tag) (hx : ∀ c ∈ x, isLineBreak c = false) :
    ∀ c ∈ tag.typed x, isLineBreak c = false := by
  refine isLineBreak_frame ?_ ?_ hx <;> exact isLineBreak_of_all (by cases tag <;> decide)

theorem isLineBreak_spaced (tag : Tag) (hx : ∀ c ∈ x, isLineBreak c = false) :
    ∀ c ∈ tag.spaced x, isLineBreak c = false := by
  refine isLineBreak_frame ?_ ?_ hx <;> exact isLineBreak_of_all (by cases tag <;> decide)

end Tag

theorem Position.mk_le_mk {line a b : Nat} (h : a ≤ b) : (⟨line, a⟩ : Position) ≤ ⟨line, b⟩ :=
  Or.inr ⟨rfl, h⟩

namespace Text

variable {t u v x : Text} {tag : Tag} {line : Nat}

theorem textIn_near_ahead_double (hc : t.content line = u ++ Tag.double.typed x ++ v)
    (hlen : u.length + (Tag.double.typed x).length < Position.columnBound) :
    t.textIn (.near ⟨line, u.length + Tag.double.inset + x.length⟩ 1 3) = ['}', '}'] := by
  have hbound : u.length + Tag.double.inset + x.length + 3 < Position.columnBound := by
    simp only [Tag.length_typed, Tag.inset, Tag.innerBack, Tag.rimBack, List.length_cons,
      List.length_nil] at hlen ⊢
    omega
  have hsplit : t.content line =
      (u ++ Tag.double.typedFront ++ x) ++ (Tag.double.typedBack ++ v) := by
    simp [hc, Tag.typed]
  have hcol : u.length + Tag.double.inset + x.length + 1 =
      (u ++ Tag.double.typedFront ++ x).length + 0 := by
    simp only [List.length_append, Tag.length_typedFront]
    omega
  have hcol' : u.length + Tag.double.inset + x.length + 3 =
      (u ++ Tag.double.typedFront ++ x).length + 2 := by omega
  refine (textIn_near_ahead (k := 3) t (by omega) hbound).trans ?_
  rw [hsplit, hcol, hcol', slice_length_add]
  rfl

/-- On a line with a typed tag the window at its selection shows that tag, whatever else the line
holds. -/
theorem tagAt_of_content (hc : t.content line = u ++ tag.typed x ++ v)
    (hlen : u.length + (tag.typed x).length < Position.columnBound) :
    t.tagAt ⟨⟨line, u.length + tag.inset⟩, ⟨line, u.length + tag.inset + x.length⟩⟩ =
      some tag := by
  have hle : (⟨line, u.length + tag.inset⟩ : Position) ≤ ⟨line, u.length + tag.inset + x.length⟩ :=
    Position.mk_le_mk (Nat.le_add_right _ _)
  have hfront := tag.length_typedFront
  have hsplit : t.content line = u ++ tag.typedFront ++ (x ++ tag.typedBack ++ v) := by
    simp [hc, Tag.typed]
  have hopens : (t.content line).Opens (u.length + tag.inset) tag := by
    refine ⟨Nat.le_add_left _ _, ?_, ?_⟩
    · rw [hsplit, List.length_append, List.length_append]
      omega
    · rw [hsplit, Nat.add_sub_cancel, Nat.add_assoc, ← hfront]
      exact slice_append_append u tag.typedFront _
  have hbound : u.length + tag.inset + 1 < Position.columnBound := by
    rw [Tag.length_typed] at hlen
    omega
  apply (tagAt_eq_some_iff (by rwa [Selection.start_mk hle])).mpr
  rw [Selection.start_mk hle, Selection.stop_mk hle]
  refine ⟨hopens, ?_⟩
  rintro rfl
  rw [textIn_near_ahead_double hc hlen]
  decide

end Text

namespace Tag

variable {line c n : Nat}

/-- The expansion of a typed tag replaces what lies between its outer braces. -/
theorem rangeAround_typed (tag : Tag)
    (hlen : c + tag.inset + 1 + n + tag.innerBack.length < Position.columnBound) :
    tag.rangeAround ⟨⟨line, c + tag.inset⟩, ⟨line, c + tag.inset + n⟩⟩ =
      .ok (.between ⟨line, c + tag.rimFront.length⟩
        ⟨line, c + tag.inset + 1 + n + tag.innerBack.length⟩) := by
  have hinset := tag.inset_add_one
  have hle : (⟨line, c + tag.inset⟩ : Position) ≤ ⟨line, c + tag.inset + n⟩ :=
    Position.mk_le_mk (Nat.le_add_right _ _)
  have hstart : Position.shift? ⟨line, c + tag.inset⟩ tag.offsets.1 =
      some ⟨line, c + tag.rimFront.length⟩ := by
    rw [offsets_eq, Position.shift?_eq_some (1 - tag.innerFront.length) (by omega) (by omega)]
    congr 2
    omega
  have hstop : Position.shift? ⟨line, c + tag.inset + n⟩ tag.offsets.2 =
      some ⟨line, c + tag.inset + 1 + n + tag.innerBack.length⟩ := by
    rw [offsets_eq, Position.shift?_eq_some (1 + tag.innerBack.length) (by omega) (by omega)]
    congr 2
    omega
  rw [rangeAround, Selection.start_mk hle, Selection.stop_mk hle, hstart, hstop]

end Tag

namespace Text

variable {before after x y : Text} {line c : Nat}

/-- What an expansion replaces, as offsets of the text that the tag was typed in. -/
theorem span_inner (tag : Tag) (hcols : ∀ k ≤ (tag.typed x).length,
      (before ++ tag.typed x ++ after).offset ⟨line, c + k⟩ = before.length + k) :
    (before ++ tag.typed x ++ after).span (.between ⟨line, c + tag.rimFront.length⟩
        ⟨line, c + tag.inset + 1 + x.length + tag.innerBack.length⟩) =
      ((before ++ tag.rimFront).length,
        (before ++ tag.rimFront).length + (tag.innerFront ++ x ++ tag.innerBack).length) := by
  have hinset := tag.inset_add_one
  have hlength := tag.length_typed x
  have hstart := hcols tag.rimFront.length (by omega)
  have hstop := hcols (tag.inset + 1 + x.length + tag.innerBack.length) (by omega)
  simp only [← Nat.add_assoc] at hstop
  rw [Range.between_of_le (Position.mk_le_mk (by omega)), span_eq]
  simp only [hstart, hstop, List.length_append, Prod.mk.injEq, true_and]
  omega

/-- Positions lead back to the offsets of the text in a tag that is spaced out. -/
theorem span_spaced (tag : Tag) (hy : ∀ c ∈ y, isLineBreak c = false) (before after : Text) :
    let u := before ++ tag.spaced y ++ after
    let start := before.length + tag.spacedFront.length
    u.span (.between (u.positionAt start) (u.positionAt (start + y.length))) =
      (start, start + y.length) := by
  intro u start
  have hlen : (tag.spaced y).length =
      tag.spacedFront.length + y.length + tag.spacedBack.length := by
    rw [Tag.spaced, List.length_append, List.length_append]
  have hoffset := fun k (hk : k ≤ (tag.spaced y).length) =>
    offset_positionAt_append (tag.spaced_ne_nil y) (tag.isLineBreak_spaced hy) before after hk
  refine span_between_positionAt (Nat.le_add_right _ _) (hoffset _ (by omega)) ?_
  rw [Nat.add_assoc]
  exact hoffset _ (by omega)

theorem slice_spaced (tag : Tag) (before y after : Text) :
    (before ++ tag.spaced y ++ after).slice (before.length + tag.spacedFront.length)
      (before.length + tag.spacedFront.length + y.length) = y := by
  simp [Tag.spaced, slice]

end Text

/-- The insertion at the inner part of a typed tag leaves the tag spaced out. -/
theorem Buffer.insert_of_inner {b : Buffer} {request : Request} {r : Range} {tag : Tag}
    {before after x : Text} (ht : b.text = before ++ tag.typed x ++ after)
    (htag : request.tag = tag) (hr : request.ranges = [r])
    (hspan : b.text.span r = ((before ++ tag.rimFront).length,
      (before ++ tag.rimFront).length + (tag.innerFront ++ x ++ tag.innerBack).length)) :
    ∃ b', b.insert request = .ok b' ∧
      b'.text = before ++ tag.spaced (tag.kept x) ++ after ∧
      b'.selections = [⟨b'.text.positionAt (before.length + tag.spacedFront.length),
        b'.text.positionAt (before.length + tag.spacedFront.length + (tag.kept x).length)⟩] := by
  have hsplit : b.text = (before ++ tag.rimFront) ++ (tag.innerFront ++ x ++ tag.innerBack) ++
      (tag.rimBack ++ after) := by
    rw [ht]
    simp only [Tag.typed_eq, List.append_assoc]
  obtain ⟨b', hok, htext, hsel⟩ := insert_of_single hr hsplit hspan
  rw [htag, Tag.kept_inner] at htext hsel
  have hfront : (before ++ tag.rimFront).length + tag.opening.length =
      before.length + tag.spacedFront.length := by
    rw [tag.length_spacedFront, List.length_append, Nat.add_assoc]
  rw [← Nat.add_assoc, hfront] at hsel
  refine ⟨b', hok, ?_, hsel⟩
  rw [htext]
  simp only [Tag.spaced_eq, List.append_assoc]

/-- The selection of the text of a typed tag shows the tag, and the insertion there leaves it spaced
out, with what the template keeps of the text selected. Columns are words, so the tag must end at
one. -/
theorem insert_typed (tag : Tag) (before after x : Text) (hx : ∀ c ∈ x, isLineBreak c = false)
    (hcol : ((before ++ tag.typed x ++ after).positionAt
      (before.length + (tag.typed x).length)).character < Position.columnBound) :
    let t := before ++ tag.typed x ++ after
    let s : Selection := ⟨t.positionAt (before.length + tag.inset),
      t.positionAt (before.length + tag.inset + x.length)⟩
    t.tagAt s = some tag ∧
    ∃ r, tag.rangeAround s = .ok r ∧
      ∀ (b : Buffer) (request : Request), b.text = t → request.tag = tag → request.ranges = [r] →
        ∃ b' s', b.insert request = .ok b' ∧
          b'.text = before ++ tag.spaced (tag.kept x) ++ after ∧
          b'.selections = [s'] ∧
          b'.text.textIn s'.range = tag.kept x ∧
          b'.text.span s'.range = (before.length + tag.spacedFront.length,
            before.length + tag.spacedFront.length + (tag.kept x).length) := by
  intro t s
  obtain ⟨line, u, v, hline, hcols⟩ := Text.exists_line_of_append
    (tag.typed_ne_nil x) (tag.isLineBreak_typed hx) before after
  have hlength := tag.length_typed x
  have hbound : u.length + (tag.typed x).length < Position.columnBound := by
    rwa [(hcols _ (Nat.le_refl _)).1] at hcol
  have hs : s = ⟨⟨line, u.length + tag.inset⟩, ⟨line, u.length + tag.inset + x.length⟩⟩ := by
    have hstart := (hcols tag.inset (by omega)).1
    have hstop := (hcols (tag.inset + x.length) (by omega)).1
    rw [← Nat.add_assoc, ← Nat.add_assoc] at hstop
    simp only [s, t, hstart, hstop]
  rw [hs]
  refine ⟨Text.tagAt_of_content hline hbound, _, tag.rangeAround_typed (by omega), ?_⟩
  intro b request ht htag hr
  have hspan := Text.span_inner tag fun k hk => (hcols k hk).2
  obtain ⟨b', hok, htext, hsel⟩ := Buffer.insert_of_inner ht htag hr (ht ▸ hspan)
  have hkept : ∀ c ∈ tag.kept x, isLineBreak c = false :=
    fun c hc => hx c (List.mem_of_mem_filter hc)
  have hnew := Text.span_spaced tag hkept before after
  rw [← htext] at hnew
  refine ⟨b', _, hok, htext, hsel, ?_, hnew⟩
  rw [Text.textIn, Selection.range, hnew, htext]
  exact Text.slice_spaced tag before _ after

theorem insert_typed_comment :
    let t : Text := ['a', '{', '{', ' ', '-', '-', '-', 'x', ' ', '}', '}', 'b']
    (∀ c ∈ ['-', 'x'], isLineBreak c = false) ∧ (t.positionAt 11).character < Position.columnBound ∧
    ∃ r, Tag.comment.rangeAround ⟨t.positionAt 5, t.positionAt 7⟩ = .ok r ∧
      ∃ b', (Buffer.ofText t).insert ⟨.comment, [r], List.cons_ne_nil r [], {}⟩ = .ok b' ∧
        b'.text = ['a', '{', '{', '-', '-', ' ', 'x', ' ', '-', '-', '}', '}', 'b'] := by
  intro t
  have hx : ∀ c ∈ ['-', 'x'], isLineBreak c = false := isLineBreak_of_all (by decide)
  have hcol : (t.positionAt 11).character < Position.columnBound := by
    have h : (t.positionAt 11).character = 11 := by cbv
    rw [h, Position.columnBound]
    decide
  obtain ⟨_, r, hr, hinsert⟩ := insert_typed .comment ['a'] ['b'] ['-', 'x'] hx hcol
  obtain ⟨b', _, hok, htext, _⟩ :=
    hinsert (.ofText t) ⟨.comment, [r], List.cons_ne_nil r [], {}⟩ rfl rfl rfl
  exact ⟨hx, hcol, r, hr, b', hok, htext⟩

end TagSpacing
