import TagSpacing.Proofs.Concat
import TagSpacing.Proofs.Space

/-! What the expansion leaves of the lines of a text: all of them, with the endings they had. It
adds spaces, and it adds them inside lines. -/
namespace TagSpacing

/-- A text and the text with spaces added to it. -/
inductive Text.Spaced : Text → Text → Prop
  | nil : Spaced [] []
  | keep {c : Char} {t t' : Text} (h : Spaced t t') : Spaced (c :: t) (c :: t')
  | space {t t' : Text} (h : Spaced t t') : Spaced t (' ' :: t')

/-- A line and the line with spaces added to its content. -/
structure Line.Spaced (l l' : Line) : Prop where
  content : l.content.Spaced l'.content
  ending : l'.ending = l.ending

namespace Text.Spaced

variable {t t' u u' : Text}

theorem refl (t : Text) : Spaced t t := by
  induction t with
  | nil => exact .nil
  | cons c t ih => exact .keep ih

theorem append (h : Spaced t t') (hu : Spaced u u') : Spaced (t ++ u) (t' ++ u') := by
  induction h with
  | nil => exact hu
  | keep _ ih => exact .keep ih
  | space _ ih => exact .space ih

end Text.Spaced

namespace Line

variable {l l' : Line} {ls ls' ms ms' : List Line}

theorem Spaced.refl (l : Line) : Spaced l l := ⟨.refl l.content, rfl⟩

/-- Where two texts are put together, the two lines that become one are put together too. -/
theorem forall₂_join (hls : List.Forall₂ Spaced ls ls') (hms : List.Forall₂ Spaced ms ms') :
    List.Forall₂ Spaced (join ls ms) (join ls' ms') := by
  induction hls with
  | nil => exact hms
  | cons hl hrest ih =>
    cases hrest with
    | nil =>
      cases hms with
      | nil => exact .cons hl .nil
      | cons hm hms => exact .cons ⟨hl.content.append hm.content, hm.ending⟩ hms
    | cons => exact .cons hl ih

theorem forall₂_consChar_space (h : List.Forall₂ Spaced ls ls') (hne : ls ≠ []) :
    List.Forall₂ Spaced ls (consChar ' ' ls') := by
  cases h with
  | nil => contradiction
  | cons hl hls =>
    rw [consChar_of_not_lineBreak (by decide)]
    exact .cons ⟨.space hl.content, hl.ending⟩ hls

theorem map_ending_eq (h : List.Forall₂ Spaced ls ls') : ls'.map ending = ls.map ending := by
  induction h with
  | nil => rfl
  | cons hl _ ih => rw [List.map_cons, List.map_cons, hl.ending, ih]

end Line

namespace Text

variable {t u v v' : Text} {i j last : Nat} {as : List (Nat × Nat)}

/-- A text and a text with the same lines, but with spaces added inside them. -/
def LinesSpaced (t t' : Text) : Prop := List.Forall₂ Line.Spaced t.lines t'.lines

namespace LinesSpaced

theorem refl (t : Text) : LinesSpaced t t :=
  List.forall₂_same.mpr fun l _ => Line.Spaced.refl l

/-- A space can be added at every offset that does not lie inside a line ending. -/
theorem insert_space (h : LinesSpaced v v') (hsplit : ¬SplitsCrlf (u ++ v) u.length) :
    LinesSpaced (u ++ v) (u ++ ' ' :: v') := by
  have hsplit' : ¬SplitsCrlf (u ++ ' ' :: v') u.length := by
    intro hs
    have hlf : some ' ' = some '\n' := (splitsCrlf_append_iff.mp hs).2
    contradiction
  have hspace := Line.forall₂_consChar_space h v.lines_layout.ne_nil
  unfold LinesSpaced
  rw [lines_append hsplit, lines_append hsplit', lines_cons]
  exact Line.forall₂_join (LinesSpaced.refl u) hspace

end LinesSpaced

theorem not_splitsCrlf_slice (hij : i ≤ j) (hj : j ≤ t.length) (h : ¬SplitsCrlf t j) :
    ¬SplitsCrlf (t.slice i j ++ t.drop j) (t.slice i j).length := by
  intro hs
  have hlen : (t.take i).length + (t.slice i j).length = j := by
    simp only [slice, List.length_take, List.length_drop]
    omega
  have hfront := hs.append_left (t.take i)
  rw [slice_append_drop hij, List.take_append_drop, hlen] at hfront
  exact h hfront

theorem linesSpaced_spaceOut (last : Nat) (hlast : ∀ a ∈ as, last ≤ a.1)
    (ha : ∀ a ∈ as, a.1 ≤ a.2 ∧ a.2 ≤ t.length) (has : as.Pairwise fun a b => a.2 ≤ b.1)
    (hsplit : ∀ a ∈ as, ¬SplitsCrlf t a.1 ∧ ¬SplitsCrlf t a.2) :
    LinesSpaced (t.drop last) (t.spaceOut last as) := by
  induction as generalizing last with
  | nil => exact .refl _
  | cons a as ih =>
    obtain ⟨hnext, has⟩ := List.pairwise_cons.mp has
    obtain ⟨⟨hale, hlen⟩, ha⟩ := List.forall_mem_cons.mp ha
    obtain ⟨⟨hstart, hstop⟩, hsplit⟩ := List.forall_mem_cons.mp hsplit
    have hlast := hlast a List.mem_cons_self
    have hbehind : LinesSpaced (t.drop a.1) (t.slice a.1 a.2 ++ ' ' :: t.spaceOut a.2 as) := by
      have hinsert := (ih a.2 hnext ha has hsplit).insert_space
        (not_splitsCrlf_slice hale hlen hstop)
      rwa [slice_append_drop hale] at hinsert
    have hinsert := hbehind.insert_space
      (not_splitsCrlf_slice hlast (Nat.le_trans hale hlen) hstart)
    rwa [slice_append_drop hlast] at hinsert

theorem not_splitsCrlf_of_mem_spans {ranges : List Range} {a : Nat × Nat}
    (h : a ∈ t.spans ranges) : ¬SplitsCrlf t a.1 ∧ ¬SplitsCrlf t a.2 := by
  obtain ⟨r, _, rfl⟩ := List.mem_map.mp ((t.perm_spans ranges).mem_iff.mp h)
  rw [span_eq]
  exact ⟨t.not_splitsCrlf_offset r.start, t.not_splitsCrlf_offset r.stop⟩

end Text

theorem Buffer.linesSpaced_textAfter {b : Buffer} {request : Request}
    (htag : request.tag = .double) (h : b.Disjoint request) :
    b.text.LinesSpaced (b.textAfter request) := by
  rw [textAfter_of_double htag]
  exact Text.linesSpaced_spaceOut 0 (fun _ _ => Nat.zero_le _)
    (fun _ ha => Text.bounds_of_mem_spans ha) (pairwise_spans_of_disjoint h)
    (fun _ ha => Text.not_splitsCrlf_of_mem_spans ha)

namespace Workspace

variable {w : Workspace} {b : Buffer}

/-- A run keeps the lines of a text and their endings, so that no carriage return is parted from its
line feed or joined with another one. To the contents of the lines it adds spaces only. -/
theorem space_keeps_lines (config : Config) (h : w.active? = some b) :
    ∃ b', (config.space w).1.active? = some b' ∧
      b'.text.lineCount = b.text.lineCount ∧
      b'.text.lines.map Line.ending = b.text.lines.map Line.ending ∧
      List.Forall₂ (fun l l' => l.content.Spaced l'.content) b.text.lines b'.text.lines := by
  obtain ⟨b', hb', hlines⟩ :
      ∃ b', (config.space w).1.active? = some b' ∧ b.text.LinesSpaced b'.text := by
    rcases space_cases config w with ⟨hw, _⟩ | ⟨b₀, request, ha, hp, hd, he⟩
    · rw [hw]
      exact ⟨b, h, .refl b.text⟩
    · obtain rfl : b = b₀ := Option.some.inj (h.symm.trans ha)
      obtain ⟨_, htag, _⟩ := Config.plan_eq_some hp
      rw [he]
      exact ⟨b.inserted request, active?_setActive h _, Buffer.linesSpaced_textAfter htag hd⟩
  have hcontents := hlines.imp fun _ _ hl => hl.content
  exact ⟨b', hb', hlines.length_eq.symm, Line.map_ending_eq hlines, hcontents⟩

/-- A tag that is opened at the end of one line and closed past the end of another. -/
theorem space_keeps_lines_tag :
    let b : Buffer := ⟨['{', '{', '\r', '\n', 'a', '\u2028', 'b'], [⟨⟨0, 1⟩, ⟨1, 7⟩⟩], .empty⟩
    let w : Workspace := ⟨[b], some 0⟩
    w.active? = some b ∧ ∃ b', (Config.space {} w).1.active? = some b' ∧
      b'.text = ['{', '{', ' ', '\r', '\n', 'a', ' ', '\u2028', 'b'] ∧ b'.text.lineCount = 3 ∧
      b'.text.lines.map Line.ending = [some .crlf, some .ls, none] := by
  intro b w
  have ha : w.active? = some b := rfl
  obtain ⟨b', hb', hcount, hendings, _⟩ := space_keeps_lines {} ha
  refine ⟨ha, b', hb', ?_, hcount, hendings⟩
  have hspace : (Config.space {} w).1.active?.map Buffer.text =
      some ['{', '{', ' ', '\r', '\n', 'a', ' ', '\u2028', 'b'] := by cbv
  rw [hb'] at hspace
  exact Option.some.inj hspace

end Workspace

end TagSpacing
