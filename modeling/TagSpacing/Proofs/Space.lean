import TagSpacing.Workspace
import TagSpacing.Proofs.History
import TagSpacing.Proofs.Plan
import TagSpacing.Proofs.Selections

/-! What a run of the expansion does to a workspace, and why a second run finds nothing to do. -/
namespace TagSpacing

namespace Text

variable {t : Text} {last : Nat} {as : List (Nat × Nat)}

/-- The text from offset `last` on with a space at both ends of some spans. -/
def spaceOut (t : Text) (last : Nat) : List (Nat × Nat) → Text
  | [] => t.drop last
  | a :: as => t.slice last a.1 ++ ' ' :: (t.slice a.1 a.2 ++ ' ' :: spaceOut t a.2 as)

theorem splice_double (t : Text) (last : Nat) (as : List (Nat × Nat)) :
    t.splice last ((as.map (Tag.double.insertion t)).map Insertion.edit) = t.spaceOut last as := by
  induction as generalizing last with
  | nil => rfl
  | cons a as ih =>
    rw [List.map_cons, List.map_cons, splice, spaceOut]
    change _ ++ (Tag.double.opening ++ Tag.double.kept (t.slice a.1 a.2) ++ Tag.double.closing) ++
      t.splice a.2 ((as.map (Tag.double.insertion t)).map Insertion.edit) = _
    rw [ih, Tag.kept_double]
    simp [Tag.opening, Tag.closing, Tag.insertion, Insertion.edit]

theorem drop_eq_of_span {a : Nat × Nat} (hlast : last ≤ a.1) (ha : a.1 ≤ a.2) :
    t.drop last = t.slice last a.1 ++ (t.slice a.1 a.2 ++ t.drop a.2) := by
  rw [slice_append_drop ha, slice_append_drop hlast]

/-- Nothing of the text is lost, changed or moved to another place. -/
theorem sublist_spaceOut (last : Nat) (hlast : ∀ a ∈ as, last ≤ a.1) (ha : ∀ a ∈ as, a.1 ≤ a.2)
    (has : as.Pairwise fun a b => a.2 ≤ b.1) : (t.drop last).Sublist (t.spaceOut last as) := by
  induction as generalizing last with
  | nil => exact List.Sublist.refl _
  | cons a as ih =>
    obtain ⟨hnext, has⟩ := List.pairwise_cons.mp has
    obtain ⟨hale, ha⟩ := List.forall_mem_cons.mp ha
    rw [spaceOut, drop_eq_of_span (hlast a List.mem_cons_self) hale]
    have hrest := (ih a.2 hnext ha has).cons ' '
    exact (List.Sublist.refl _).append (((List.Sublist.refl _).append hrest).cons ' ')

theorem count_spaceOut (last : Nat) (hlast : ∀ a ∈ as, last ≤ a.1) (ha : ∀ a ∈ as, a.1 ≤ a.2)
    (has : as.Pairwise fun a b => a.2 ≤ b.1) (c : Char) :
    (t.spaceOut last as).count c =
      (t.drop last).count c + if c = ' ' then 2 * as.length else 0 := by
  induction as generalizing last with
  | nil => simp [spaceOut]
  | cons a as ih =>
    obtain ⟨hnext, has⟩ := List.pairwise_cons.mp has
    obtain ⟨hale, ha⟩ := List.forall_mem_cons.mp ha
    rw [spaceOut, drop_eq_of_span (hlast a List.mem_cons_self) hale]
    simp only [List.count_append, List.count_cons, ih a.2 hnext ha has, List.length_cons]
    by_cases hc : c = ' '
    · subst hc
      simp
      omega
    · simp [hc, Ne.symm hc]

end Text

namespace Buffer

variable {b : Buffer} {request : Request}

theorem textAfter_of_double (htag : request.tag = .double) :
    b.textAfter request = b.text.spaceOut 0 (b.text.spans request.ranges) := by
  rw [textAfter, planned, htag, Text.splice_double]

theorem sublist_textAfter (htag : request.tag = .double) (h : b.Disjoint request) :
    b.text.Sublist (b.textAfter request) := by
  rw [textAfter_of_double htag]
  exact Text.sublist_spaceOut 0 (fun _ _ => Nat.zero_le _)
    (fun _ ha => (Text.bounds_of_mem_spans ha).1) (pairwise_spans_of_disjoint h)

theorem count_textAfter (htag : request.tag = .double) (h : b.Disjoint request) (c : Char) :
    (b.textAfter request).count c =
      b.text.count c + if c = ' ' then 2 * request.ranges.length else 0 := by
  have hlen : (b.text.spans request.ranges).length = request.ranges.length := by
    rw [(b.text.perm_spans request.ranges).length_eq, List.length_map]
  rw [textAfter_of_double htag, ← hlen]
  exact Text.count_spaceOut 0 (fun _ _ => Nat.zero_le _)
    (fun _ ha => (Text.bounds_of_mem_spans ha).1) (pairwise_spans_of_disjoint h) c

theorem length_textAfter (htag : request.tag = .double) (h : b.Disjoint request) :
    (b.textAfter request).length = b.text.length + 2 * request.ranges.length := by
  have hperm : (b.textAfter request).Perm
      (b.text ++ List.replicate (2 * request.ranges.length) ' ') := by
    rw [List.perm_iff_count]
    intro c
    rw [count_textAfter htag h, List.count_append, List.count_replicate]
    by_cases hc : c = ' '
    · simp [hc]
    · simp [hc, Ne.symm hc]
  rw [hperm.length_eq, List.length_append, List.length_replicate]

/-- Every selection starts behind the space that now opens its tag. -/
theorem tagAt_inserted_ne_double (htag : request.tag = .double) (h : b.Disjoint request) :
    ∀ s ∈ (b.inserted request).selections,
      (b.inserted request).text.tagAt s ≠ some .double := by
  intro s hs
  obtain ⟨a, before, after, htext, hs⟩ := exists_of_mem_selections_inserted h hs
  rw [htag] at htext hs
  have hstart : s.start = (b.textAfter request).positionAt (before.length + 1) := by
    rw [hs, Tag.place_insertion]
    apply Selection.start_mk
    exact Text.positionAt_mono (Nat.add_le_add_left (Nat.le_add_right _ _) _)
  simp only [Tag.text_insertion, Tag.opening, List.append_assoc, List.singleton_append] at htext
  change (b.textAfter request).tagAt s ≠ _
  rw [htext] at hstart ⊢
  exact Text.tagAt_ne_double_of_space hstart

end Buffer

namespace Workspace

variable {w : Workspace} {b b' : Buffer} {config : Config} {request : Request} {i : Nat}

theorem active_setActive (w : Workspace) (b : Buffer) : (w.setActive b).active = w.active := by
  unfold setActive
  split <;> rfl

theorem length_buffers_setActive (w : Workspace) (b : Buffer) :
    (w.setActive b).buffers.length = w.buffers.length := by
  unfold setActive
  split
  · exact List.length_set
  · rfl

theorem getElem?_setActive_of_ne (b : Buffer) (h : w.active ≠ some i) :
    (w.setActive b).buffers[i]? = w.buffers[i]? := by
  unfold setActive
  split
  · rename_i j hj
    exact List.getElem?_set_ne fun hij => h (hj.trans (congrArg some hij))
  · rfl

theorem getElem?_setActive_self (hi : w.active = some i) (hlt : i < w.buffers.length) (b : Buffer) :
    (w.setActive b).buffers[i]? = some b := by
  rw [setActive, hi]
  exact List.getElem?_set_self hlt

theorem active?_eq_some_iff :
    w.active? = some b ↔ ∃ j, w.active = some j ∧ w.buffers[j]? = some b := by
  rw [active?, Option.bind_eq_some_iff]

theorem active?_setActive (h : w.active? = some b) (b' : Buffer) :
    (w.setActive b').active? = some b' := by
  obtain ⟨j, hj, hb⟩ := active?_eq_some_iff.mp h
  have hlt : j < w.buffers.length := (List.getElem?_eq_some_iff.mp hb).1
  exact active?_eq_some_iff.mpr
    ⟨j, (w.active_setActive b').trans hj, getElem?_setActive_self hj hlt b'⟩

theorem space_of_active?_eq_none (h : w.active? = none) : config.space w = (w, .idle) := by
  have hhost : Host.active? w = none := h
  rw [Config.space, hhost]

theorem space_of_plan_eq_none (h : w.active? = some b)
    (hp : config.plan b.text b.selections = none) : config.space w = (w, .idle) := by
  have hhost : Host.active? w = some b := h
  have hplan : config.plan (Editor.text b) (Editor.selections b) = none := hp
  rw [Config.space, hhost]
  simp only [hplan]

theorem space_of_plan_eq_some (h : w.active? = some b)
    (hp : config.plan b.text b.selections = some request) :
    config.space w =
      match b.insert request with
      | .ok b' => (w.setActive b', .expanded)
      | .error e => (w, .refused request.tag e) := by
  have hhost : Host.active? w = some b := h
  have hplan : config.plan (Editor.text b) (Editor.selections b) = some request := hp
  have hinsert : Editor.insert b request = b.insert request := rfl
  rw [Config.space, hhost]
  simp only [hplan, hinsert]
  cases b.insert request <;> rfl

/-- A run leaves the workspace alone, or it makes the whole insertion. -/
theorem space_cases (config : Config) (w : Workspace) :
    ((config.space w).1 = w ∧ (config.space w).2 ≠ .expanded) ∨
    ∃ b request, w.active? = some b ∧ config.plan b.text b.selections = some request ∧
      b.Disjoint request ∧ config.space w = (w.setActive (b.inserted request), .expanded) := by
  cases ha : w.active? with
  | none =>
    left
    rw [space_of_active?_eq_none ha]
    exact ⟨rfl, by simp⟩
  | some b =>
    cases hp : config.plan b.text b.selections with
    | none =>
      left
      rw [space_of_plan_eq_none ha hp]
      exact ⟨rfl, by simp⟩
    | some request =>
      rw [space_of_plan_eq_some ha hp]
      cases hi : b.insert request with
      | error e => exact Or.inl ⟨rfl, by simp⟩
      | ok b' =>
        obtain ⟨hd, rfl⟩ := Buffer.insert_eq_ok_iff.mp hi
        exact Or.inr ⟨b, request, rfl, hp, hd, rfl⟩

theorem space_fst_of_ne_expanded (h : (config.space w).2 ≠ .expanded) : (config.space w).1 = w := by
  rcases space_cases config w with ⟨hw, _⟩ | ⟨b, request, _, _, _, he⟩
  · exact hw
  · exact (h (congrArg Prod.snd he)).elim

theorem space_of_expanded (h : (config.space w).2 = .expanded) :
    ∃ b request, w.active? = some b ∧ config.plan b.text b.selections = some request ∧
      b.Disjoint request ∧ (config.space w).1 = w.setActive (b.inserted request) := by
  rcases space_cases config w with ⟨_, hne⟩ | ⟨b, request, ha, hp, hd, he⟩
  · exact (hne h).elim
  · exact ⟨b, request, ha, hp, hd, congrArg Prod.fst he⟩

theorem space_expanded_iff (h : w.active? = some b) :
    (config.space w).2 = .expanded ↔
      ∃ request, config.plan b.text b.selections = some request ∧ b.Disjoint request := by
  constructor
  · intro he
    obtain ⟨b₀, request, ha, hp, hd, _⟩ := space_of_expanded he
    obtain rfl : b = b₀ := Option.some.inj (h.symm.trans ha)
    exact ⟨request, hp, hd⟩
  · rintro ⟨request, hp, hd⟩
    rw [space_of_plan_eq_some h hp, Buffer.insert_of_disjoint hd]

/-- What the expansion has spaced out it does not find again. -/
theorem space_space_of_expanded (h : (config.space w).2 = .expanded) (config' : Config) :
    config'.space (config.space w).1 = ((config.space w).1, .idle) := by
  obtain ⟨b, request, ha, hp, hd, he⟩ := space_of_expanded h
  obtain ⟨_, htag, _⟩ := Config.plan_eq_some hp
  rw [he]
  exact space_of_plan_eq_none (active?_setActive ha _)
    (Config.plan_eq_none (Buffer.tagAt_inserted_ne_double htag hd))

/-- Runs in a row end where the first one does. -/
theorem spaceTimes_fst_succ (config : Config) (w : Workspace) (n : Nat) :
    (config.spaceTimes w (n + 1)).1 = (config.space w).1 := by
  induction n generalizing w with
  | zero => rfl
  | succ n ih =>
    have hstep : (config.spaceTimes w (n + 2)).1 =
        (config.spaceTimes (config.space w).1 (n + 1)).1 := rfl
    rw [hstep, ih]
    -- Only an insertion changes anything, and behind one there is nothing left to insert.
    by_cases h : (config.space w).2 = .expanded
    · rw [space_space_of_expanded h]
    · rw [space_fst_of_ne_expanded h, space_fst_of_ne_expanded h]

theorem length_spaceTimes_snd (config : Config) (w : Workspace) (n : Nat) :
    (config.spaceTimes w n).2.length = n := by
  induction n generalizing w with
  | zero => rfl
  | succ n ih => exact congrArg (· + 1) (ih _)

theorem space_fst_eq (config : Config) (w : Workspace) :
    (config.space w).1 = w ∨ ∃ b, (config.space w).1 = w.setActive b := by
  rcases space_cases config w with ⟨hw, _⟩ | ⟨b, request, _, _, _, he⟩
  · exact Or.inl hw
  · exact Or.inr ⟨b.inserted request, congrArg Prod.fst he⟩

theorem active_space (config : Config) (w : Workspace) :
    (config.space w).1.active = w.active := by
  rcases space_fst_eq config w with hw | ⟨b, hw⟩
  · rw [hw]
  · rw [hw, active_setActive]

theorem length_buffers_space (config : Config) (w : Workspace) :
    (config.space w).1.buffers.length = w.buffers.length := by
  rcases space_fst_eq config w with hw | ⟨b, hw⟩
  · rw [hw]
  · rw [hw, length_buffers_setActive]

theorem getElem?_space_of_ne (config : Config) (hi : w.active ≠ some i) :
    (config.space w).1.buffers[i]? = w.buffers[i]? := by
  rcases space_fst_eq config w with hw | ⟨b, hw⟩
  · rw [hw]
  · rw [hw, getElem?_setActive_of_ne b hi]

/-- A run adds two spaces for every range that was planned and nothing else, unless two of them
overlap; the text and the selections from before it can be gone back to. Without an insertion
everything stays. -/
theorem space_effect (config : Config) (h : w.active? = some b) :
    ((config.space w).2 = .expanded ↔
      ∃ request, config.plan b.text b.selections = some request ∧ b.Disjoint request) ∧
    ((config.space w).2 = .expanded →
      ∃ request b', config.plan b.text b.selections = some request ∧
        (config.space w).1.active? = some b' ∧
        b'.text = b.text.spaceOut 0 (b.text.spans request.ranges) ∧
        b.text.Sublist b'.text ∧
        (∀ c, b'.text.count c =
          b.text.count c + if c = ' ' then 2 * request.ranges.length else 0) ∧
        b'.history.redoSteps = [] ∧
        b'.history.undoSteps =
          if (config.undoStopBefore = false ∨ b.history.joinNext = true) ∧ b.history.undoSteps ≠ []
          then b.history.undoSteps
          else ⟨b.text, b.selections⟩ :: b.history.undoSteps) ∧
    ((config.space w).2 ≠ .expanded → (config.space w).1 = w) ∧
    (config.space w).1.active = w.active ∧
    (config.space w).1.buffers.length = w.buffers.length ∧
    ∀ i, w.active ≠ some i → (config.space w).1.buffers[i]? = w.buffers[i]? := by
  refine ⟨space_expanded_iff h, ?_, space_fst_of_ne_expanded, active_space config w,
    length_buffers_space config w, fun i hi => getElem?_space_of_ne config hi⟩
  intro he
  obtain ⟨b₀, request, ha, hp, hd, hw⟩ := space_of_expanded he
  obtain rfl : b = b₀ := Option.some.inj (h.symm.trans ha)
  obtain ⟨_, htag, hoptions⟩ := Config.plan_eq_some hp
  have hactive : (config.space w).1.active? = some (b.inserted request) := by
    rw [hw]
    exact active?_setActive h _
  have hundo := b.history.undoSteps_commit b.snapshot config.undoStopBefore true
  refine ⟨request, b.inserted request, hp, hactive, Buffer.textAfter_of_double htag,
    Buffer.sublist_textAfter htag hd, Buffer.count_textAfter htag hd, rfl, ?_⟩
  rw [Buffer.inserted, hoptions]
  exact hundo

theorem space_effect_braces :
    let b : Buffer := ⟨['{', '{', 'a', '}', '}'], [⟨⟨0, 1⟩, ⟨0, 2⟩⟩], .empty⟩
    let w : Workspace := ⟨[b], some 0⟩
    w.active? = some b ∧ (Config.space {} w).2 = .expanded ∧
      ∃ b', (Config.space {} w).1.active? = some b' ∧
        b'.text = ['{', '{', ' ', 'a', ' ', '}', '}'] ∧
        b'.history.undoSteps = [⟨b.text, b.selections⟩] := by
  intro b w
  have ha : w.active? = some b := rfl
  have he : (Config.space {} w).2 = .expanded := by cbv
  obtain ⟨request, b', hp, hb', ht, _, _, _, hu⟩ := (space_effect {} ha).2.1 he
  have hplan : Config.plan {} b.text b.selections =
      some ⟨.double, [.between ⟨0, 2⟩ ⟨0, 3⟩], by simp, ⟨true, true⟩⟩ := by cbv
  rw [hplan, Option.some.injEq] at hp
  subst hp
  refine ⟨ha, he, b', hb', ?_, ?_⟩
  · rw [ht]
    cbv
  · rw [hu]
    cbv

theorem history_length_space_le (config : Config) (hb : w.buffers[i]? = some b)
    (hb' : (config.space w).1.buffers[i]? = some b') :
    b'.history.length ≤ b.history.length + 1 := by
  by_cases hi : w.active = some i
  · rcases space_cases config w with ⟨hw, _⟩ | ⟨b₀, request, ha, _, _, he⟩
    · rw [hw, hb, Option.some.injEq] at hb'
      subst hb'
      exact Nat.le_succ _
    · have hactive : w.active? = some b := active?_eq_some_iff.mpr ⟨i, hi, hb⟩
      obtain rfl : b = b₀ := Option.some.inj (hactive.symm.trans ha)
      have hlt : i < w.buffers.length := (List.getElem?_eq_some_iff.mp hb).1
      rw [he, getElem?_setActive_self hi hlt, Option.some.injEq] at hb'
      subst hb'
      exact History.length_commit_le _ _ _ _
  · rw [getElem?_space_of_ne config hi, hb, Option.some.injEq] at hb'
    subst hb'
    exact Nat.le_succ _

theorem countP_matches (config : Config) (changes : List Change) :
    changes.countP config.matches =
      if config.enabled then changes.countP fun change => isTrigger change.text else 0 := by
  have hm : config.matches = fun change => config.enabled && isTrigger change.text := rfl
  rw [hm]
  cases config.enabled <;> simp

theorem notify_fst (config : Config) (w : Workspace) (changes : List Change) :
    (config.notify w changes).1 =
      if changes.countP config.matches = 0 then w else (config.space w).1 := by
  rw [Config.notify]
  split
  · rename_i hk
    rw [hk]
    rfl
  · rename_i hk
    obtain ⟨n, hn⟩ := Nat.exists_eq_succ_of_ne_zero hk
    rw [hn, spaceTimes_fst_succ]

/-- However many changes wake the expansion at once, it takes effect once. -/
theorem notify_effect (config : Config) (w : Workspace) (changes : List Change) :
    (config.notify w changes).2.length =
      (if config.enabled then changes.countP fun change => isTrigger change.text else 0) ∧
    ((config.notify w changes).2.length = 0 → (config.notify w changes).1 = w) ∧
    (1 ≤ (config.notify w changes).2.length →
      (config.notify w changes).1 = (config.space w).1) ∧
    ((config.space w).2 = .expanded →
      (∃ b, (config.space w).1.active? = some b ∧
        ∀ s ∈ b.selections, b.text.tagAt s ≠ some .double) ∧
      ∀ config' : Config, config'.space (config.space w).1 = ((config.space w).1, .idle)) ∧
    ∀ (i : Nat) (b b' : Buffer), w.buffers[i]? = some b →
      (config.notify w changes).1.buffers[i]? = some b' → b'.history.length ≤ b.history.length + 1 := by
  have hlen : (config.notify w changes).2.length = changes.countP config.matches :=
    length_spaceTimes_snd config w _
  rw [hlen, notify_fst, ← countP_matches]
  refine ⟨rfl, fun hk => if_pos hk, fun hk => if_neg (Nat.ne_of_gt hk), ?_, ?_⟩
  · intro he
    obtain ⟨b, request, ha, hp, hd, hw⟩ := space_of_expanded he
    obtain ⟨_, htag, _⟩ := Config.plan_eq_some hp
    refine ⟨⟨b.inserted request, ?_, Buffer.tagAt_inserted_ne_double htag hd⟩,
      space_space_of_expanded he⟩
    rw [hw]
    exact active?_setActive ha _
  · intro i b b' hb hb'
    split at hb'
    · rw [hb, Option.some.injEq] at hb'
      subst hb'
      exact Nat.le_succ _
    · exact history_length_space_le config hb hb'

end Workspace

end TagSpacing
