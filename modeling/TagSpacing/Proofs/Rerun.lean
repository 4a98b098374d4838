import TagSpacing.CommandLine.Session
import TagSpacing.Proofs.Grammar
import TagSpacing.Proofs.SelectionText
import TagSpacing.Proofs.Space

/-! A second run of the command on the text that the first one left, with the selections that the
first one reported: nothing changes any more. -/
namespace TagSpacing

theorem Text.tagAt_of_character_eq_zero {t : Text} {s : Selection} (h : s.start.character = 0) :
    t.tagAt s = none := by
  rw [Option.eq_none_iff_forall_ne_some]
  intro tag htag
  have hbound : 0 + 1 < Position.columnBound := by decide
  obtain ⟨⟨hinset, _, _⟩, _⟩ := (tagAt_eq_some_iff (h ▸ hbound)).mp htag
  cases tag <;> simp [h, Tag.inset] at hinset

namespace Buffer

theorem select_of_ne_nil (b : Buffer) {selections : List Selection} (h : selections ≠ []) :
    b.select selections = { b with selections } := by
  rw [select, if_neg h]

theorem select_selections_select (b : Buffer) (selections : List Selection) :
    b.select (b.select selections).selections = b.select selections := by
  by_cases h : selections = []
  · rw [h]
    rfl
  · rw [select_of_ne_nil b h, select_of_ne_nil b h]

end Buffer

namespace CommandLine

variable {config : Config} {selections selections' : List Selection} {changes : List String}
  {t t' : Text} {b : Buffer}

/-- The buffer that a run starts from. -/
theorem select_ofText (selections : List Selection) (t : Text) :
    (if selections = [] then Buffer.ofText t else (Buffer.ofText t).select selections) =
      (Buffer.ofText t).select selections := by
  split
  · rename_i h
    rw [h]
    rfl
  · rfl

theorem expand_congr
    (h : (Buffer.ofText t).select selections = (Buffer.ofText t').select selections') :
    expand config selections changes t = expand config selections' changes t' := by
  unfold expand
  dsimp only
  rw [select_ofText, select_ofText, h]

theorem expand_cases (config : Config) (selections : List Selection) (changes : List String)
    (t : Text) :
    let b := (Buffer.ofText t).select selections
    (expand config selections changes t).1 = b ∨
      ∃ request, config.plan b.text b.selections = some request ∧ b.Disjoint request ∧
        (expand config selections changes t).1 = b.inserted request := by
  intro b
  simp only [expand, select_ofText, Workspace.notify_fst]
  split
  · exact Or.inl rfl
  · rcases Workspace.space_cases config (Workspace.empty.openBuffer b) with
      ⟨hw, _⟩ | ⟨b₀, request, ha, hp, hd, hw⟩
    · left
      rw [hw]
      rfl
    · obtain rfl : b = b₀ := Option.some.inj ha
      right
      refine ⟨request, hp, hd, ?_⟩
      rw [hw]
      rfl

/-- What the first run has spaced out the second does not expand, and where the first has left
everything in place the second does so for the same reason. -/
theorem expand_expand (config : Config) (selections : List Selection) (changes : List String)
    (t : Text) :
    let b := (expand config selections changes t).1
    (expand config b.selections changes b.text).1.text = b.text ∧
      (expand config b.selections changes b.text).1.selections = b.selections := by
  intro b
  rcases expand_cases config selections changes t with hb | ⟨request, hp, hd, hb⟩
  · have hagain : (Buffer.ofText b.text).select b.selections =
        (Buffer.ofText t).select selections := by
      rw [show b = _ from hb]
      exact Buffer.select_selections_select _ selections
    rw [expand_congr hagain]
    exact ⟨rfl, rfl⟩
  · have hne : b.selections ≠ [] := by
      rw [show b = _ from hb]
      exact Buffer.selections_inserted_ne_nil hd
    have hagain := Buffer.select_of_ne_nil (Buffer.ofText b.text) hne
    obtain ⟨_, htag, _⟩ := Config.plan_eq_some hp
    have hnone : config.plan b.text b.selections = none := by
      apply Config.plan_eq_none
      rw [show b = _ from hb]
      exact Buffer.tagAt_inserted_ne_double htag hd
    rcases expand_cases config b.selections changes b.text with hb' | ⟨request', hp', _, _⟩
    · rw [hb', hagain]
      exact ⟨rfl, rfl⟩
    · rw [hagain] at hp'
      cases hnone.symm.trans hp'

theorem length_ranges_le_of_plan {request : Request}
    (hp : config.plan t ((Buffer.ofText t).select selections).selections = some request) :
    request.ranges.length ≤ selections.length := by
  obtain ⟨hlast, _, hranges, _⟩ := Config.plan_eq_some_iff.mp hp
  by_cases h : selections = []
  · -- The caret that stands for no selections is at column 0.
    rw [h] at hlast
    cases (Text.tagAt_of_character_eq_zero rfl).symm.trans hlast
  · rw [hranges, Buffer.select_of_ne_nil _ h]
    exact List.length_filterMap_le _ _

/-- What is selected after a run can be written down, provided that the text it leaves has fewer
characters than there are words. -/
theorem fits_of_mem_selections_expand (hfits : ∀ s ∈ selections, s.Fits)
    (hlen : t.length + 2 * selections.length + 1 < Selection.numberBound) :
    ∀ s ∈ (expand config selections changes t).1.selections, s.Fits := by
  intro s hs
  rcases expand_cases config selections changes t with hb | ⟨request, hp, hd, hb⟩
  · rw [hb] at hs
    by_cases h : selections = []
    · rw [h] at hs
      obtain rfl := List.mem_singleton.mp hs
      exact ⟨⟨by decide, by decide⟩, ⟨by decide, by decide⟩⟩
    · rw [Buffer.select_of_ne_nil _ h] at hs
      exact hfits s hs
  · rw [hb] at hs
    obtain ⟨_, htag, _⟩ := Config.plan_eq_some hp
    have htext := Buffer.length_textAfter htag hd
    have hranges := length_ranges_le_of_plan hp
    have hposition : ∀ i, ((((Buffer.ofText t).select selections).textAfter request).positionAt
        i).Fits := by
      intro i
      have hle := Text.positionAt_le_length
        (((Buffer.ofText t).select selections).textAfter request) i
      change _ = t.length + _ at htext
      constructor <;> omega
    obtain ⟨a, before, after, _, rfl⟩ := Buffer.exists_of_mem_selections_inserted hd hs
    exact ⟨hposition _, hposition _⟩

/-- The selections that a run reports can be read back as they are, and a run with them on the text
that it has left finds nothing to do. Numbers are words, so the text and the selections have to leave
room for the spaces: what a memory of so many words can hold does. -/
theorem expand_reported (config : Config) (texts : List Text) (selections : List Selection)
    (changes : List String) (t : Text) (hread : texts.mapM Selection.read = .ok selections)
    (hlen : t.length + 2 * selections.length + 1 < Selection.numberBound) :
    let b := (expand config selections changes t).1
    (∀ s ∈ b.selections, s.Fits ∧ Selection.read s.write.toList = .ok s) ∧
    (b.selections.map fun s => s.write.toList).mapM Selection.read = .ok b.selections ∧
    (expand config b.selections changes b.text).1.text = b.text ∧
    (expand config b.selections changes b.text).1.selections = b.selections := by
  intro b
  have hfits : ∀ s ∈ b.selections, s.Fits :=
    fits_of_mem_selections_expand (Selection.fits_of_mapM_read hread) hlen
  refine ⟨fun s hs => ⟨hfits s hs, Selection.read_write (hfits s hs)⟩,
    Selection.mapM_read_write hfits, ?_⟩
  exact expand_expand config selections changes t

/-- The second selection is a caret behind the end of its line, and the third one is reversed. -/
theorem expand_reported_two_tags :
    let texts : List Text := ["1:2-1:3".toList, "1:09".toList, " 2:+4-2:2".toList]
    let selections : List Selection := [⟨⟨0, 1⟩, ⟨0, 2⟩⟩, .caret ⟨0, 8⟩, ⟨⟨1, 3⟩, ⟨1, 1⟩⟩]
    let t : Text := ['{', '{', 'a', '}', '}', '\r', '\n', '{', '{', 'b', 'c', '}', '}']
    let b := (expand {} selections ["!"] t).1
    texts.mapM Selection.read = .ok selections ∧
      t.length + 2 * selections.length + 1 < Selection.numberBound ∧
      b.selections = [⟨⟨0, 3⟩, ⟨0, 4⟩⟩, ⟨⟨1, 3⟩, ⟨1, 5⟩⟩] ∧
      (expand {} b.selections ["!"] b.text).1.text =
        ['{', '{', ' ', 'a', ' ', '}', '}', '\r', '\n', '{', '{', ' ', 'b', 'c', ' ', '}', '}'] := by
  intro texts selections t b
  have hread : texts.mapM Selection.read = .ok selections := rfl
  have hlen : t.length + 2 * selections.length + 1 < Selection.numberBound := by decide
  have hselections : b.selections = [⟨⟨0, 3⟩, ⟨0, 4⟩⟩, ⟨⟨1, 3⟩, ⟨1, 5⟩⟩] := by decide +kernel
  refine ⟨hread, hlen, hselections, ?_⟩
  rw [(expand_reported {} texts selections ["!"] t hread hlen).2.2.1]
  decide +kernel

end CommandLine

end TagSpacing
