import EnvMerge.Proofs.Merge.Reanalysis

namespace EnvMerge

open Document

variable {o : Options} {template destination : Source} {t d : Document} {r r' : Draft}
variable {l x : Line} {s : Statement} {k line : Text} {i : Identity}

namespace Document

-- Whether no line ends in a carriage return.
def Clean (d : Document) : Prop :=
  ∀ l ∈ d.lines, l.raw.getLast? ≠ some '\r'

instance : DecidablePred Clean := fun d =>
  inferInstanceAs (Decidable (∀ l ∈ d.lines, l.raw.getLast? ≠ some '\r'))

theorem Clean.dropReturn_eq (h : d.Clean) (hl : l ∈ d.lines) : Line.dropReturn l.raw = l.raw :=
  Line.dropReturn_of_ne (h l hl)

end Document

namespace Merge

theorem exists_identity?_of_isAddable (h : isAddable s) : ∃ i, s.identity? = some i := by
  cases s
  case frozen b => exact ⟨_, rfl⟩
  case line l   =>
    have ⟨k, hk⟩ := Option.isSome_iff_exists.mp h
    exact ⟨.key k, by simp [Statement.identity?, hk]⟩

namespace Reanalysed

variable {ss as : List Statement}

theorem exists_first?_of_mem (h : Reanalysed o t d r ss as) (hs : s ∈ ss ++ as)
    (hi : s.identity? = some i) : ∃ s', (ofText o.token r.text).first? i = some s' := by
  rw [h.first?_eq, ← List.find?_append]
  apply Option.isSome_iff_exists.mp
  exact List.find?_isSome.mpr ⟨s, hs, by simpa using hi⟩

-- What the destination is known to have is known in the merged text.
theorem exists_first?_of_kept (h : Reanalysed o t d r ss as)
    (hd : ofSource o.token destination = .ok d) (cd : d.Clean) (hf : d.first? i = some s) :
    ∃ s', (ofText o.token r.text).first? i = some s' := by
  have mem := List.mem_of_find?_eq_some hf
  have ⟨s', hs', echoes⟩ := exists_mem_of_forall₂ h.kept.flip mem
  have same : s'.identity? = s.identity? := by
    refine echoes.identity?_eq (fun _ _ hk => hk.key?_eq) fun b hb l hl m hk => ?_
    subst hb
    rw [hk.raw_eq, lineFor_of_mem_block hd mem hl, cd.dropReturn_eq (mem_lines hd mem hl)]
  exact h.exists_first?_of_mem (List.mem_append_left _ hs') (same.trans (identity?_of_first? hf))

theorem exists_first?_of_added (h : Reanalysed o t d r ss as)
    (ht : ofSource o.token template = .ok t) (ct : t.Clean) (hs : s ∈ t.statements)
    (ha : s ∈ r.added t) (hi : s.identity? = some i) :
    ∃ s', (ofText o.token r.text).first? i = some s' := by
  have ⟨s', hs', echoes⟩ := exists_mem_of_forall₂ h.added.flip ha
  have same : s'.identity? = s.identity? := by
    refine echoes.identity?_eq (fun _ _ hk => hk.key?_eq) fun b hb l hl m hk => ?_
    subst hb
    rw [hk.raw_eq, ct.dropReturn_eq (mem_lines ht hs hl)]
  exact h.exists_first?_of_mem (List.mem_append_right _ hs') (same.trans hi)

end Reanalysed

theorem addedBlocks_eq_nil (hoff : ¬o.append) (ha : r.added t = if o.append then unmatched t d else []) :
    r.addedBlocks t = [] := by
  rw [Draft.addedBlocks, ha, if_neg hoff, List.filterMap_nil]

section Clean

variable (ht : ofSource o.token template = .ok t) (hd : ofSource o.token destination = .ok d)
variable (ct : t.Clean) (cd : d.Clean)

include ht hd ct cd

-- No line of a merge ends in a carriage return.
theorem dropReturn_of_mem_lines (h : merge o t d = .ok r) (hl : line ∈ r.lines) :
    Line.dropReturn line = line := by
  have ⟨_, _, _, trail⟩ := merge_eq_ok_iff.mp h
  have ⟨s, hs, hr⟩ := trail.exists_statement hl
  rw [s.rawLines_eq] at hr
  have ⟨l, hm, he⟩ := List.mem_map.mp hr
  cases hs
  case inl hs => exact he ▸ ct.dropReturn_eq (mem_lines ht hs hm)
  case inr hs => exact he ▸ cd.dropReturn_eq (mem_lines hd hs hm)

-- What is shown of a merge is read as it was written.
theorem map_dropReturn_of_shows (h : merge o t d = .ok r) {shown : List Text} (shows : r.Shows shown) :
    shown.map Line.dropReturn = shown := by
  have ⟨n, hl⟩ := shows.lines_eq
  have clean (line) (hm : line ∈ shown) : Line.dropReturn line = id line :=
    dropReturn_of_mem_lines ht hd ct cd h (hl ▸ List.mem_append_left _ hm)
  exact (List.map_congr_left clean).trans shown.map_id

namespace Reanalysed

variable {ss as : List Statement}

-- A key of the template is first assigned in the merged text by the template's line for it, or by
-- the destination's if that was kept.
theorem raw_eq_or_kept (h : Reanalysed o t d r ss as)
    (ha : r.added t = if o.append then unmatched t d else []) (hx : t.assignment? k = some x)
    (hl : (ofText o.token r.text).assignment? k = some l) :
    l.raw = x.raw ∨ d.assignment? k = some l ∧ replacement? o t d l = none := by
  have clean := ct.dropReturn_eq (mem_lines_of_assignment? ht hx)
  cases hk : d.assignment? k
  case none =>
    refine .inl ?_
    cases happ : o.append <;> rw [happ] at ha
    case false => cases hl.symm.trans (h.assignment?_eq_none hk (by simp [ha]))
    case true  =>
      have ⟨n, again⟩ := h.assignment?_of_added ha hk hx
      cases hl.symm.trans again
      rw [Line.ofRaw_raw, clean]
  case some l' =>
    have mem := mem_lines_of_assignment? hd hk
    cases hl.symm.trans (h.assignment?_of_kept hk)
    cases hr : replacement? o t d l'
    case some x' =>
      have ⟨_, hk', hx', _⟩ := replacement?_eq_some_iff.mp hr
      cases hk'.symm.trans (key?_of_assignment? hk)
      cases hx'.symm.trans hx
      exact .inl (by rw [lineFor_of_some hr, Line.ofRaw_raw, clean])
    case none =>
      have same : Line.ofRaw (Line.dropReturn (lineFor o t d l')) l'.number = l' := by
        rw [lineFor_of_none hr, cd.dropReturn_eq mem, ← eq_ofRaw hd mem]
      exact .inr (by rw [same]; exact ⟨rfl, hr⟩)

-- A second merge puts each line in its own place.
theorem lineFor_eq (h : Reanalysed o t d r ss as)
    (ha : r.added t = if o.append then unmatched t d else []) (l : Line) :
    lineFor o t (ofText o.token r.text) l = l.raw := by
  cases hr : replacement? o t (ofText o.token r.text) l
  case none   => exact lineFor_of_none hr
  case some x =>
    have ⟨k, hk, hx, hl, wins⟩ := replacement?_eq_some_iff.mp hr
    rw [lineFor_of_some hr]
    cases h.raw_eq_or_kept ht hd ct cd ha hx hl
    case inl he => exact he.symm
    case inr hn =>
      -- the destination's line was kept because the template did not win, so it does not win now
      have again := replacement?_eq_some_iff.mpr ⟨k, hk, hx, hn.1, wins⟩
      cases hn.2.symm.trans again

-- A second merge finds a partner for whatever the first one added.
theorem unmatched_eq_nil (h : Reanalysed o t d r ss as)
    (ha : r.added t = unmatched t d) (hn : (t.statements.filterMap (·.identity?)).Nodup) :
    unmatched t (ofText o.token r.text) = [] := by
  refine List.filter_eq_nil_iff.mpr fun s hs hu => ?_
  have ⟨addable, lone⟩ := Bool.and_eq_true _ _ ▸ hu
  have ⟨i, hi⟩ := exists_identity?_of_isAddable addable
  have known : ∃ s', (ofText o.token r.text).first? i = some s' := by
    by_cases hm : isMatched t d s
    case pos =>
      have ⟨j, hj, s', hs'⟩ := isMatched_iff.mp hm
      cases (identity?_of_first? hj).symm.trans hi
      exact h.exists_first?_of_kept hd cd hs'
    case neg =>
      have mem : s ∈ unmatched t d := List.mem_filter.mpr ⟨hs, by simp [addable, hm]⟩
      exact h.exists_first?_of_added ht ct hs (ha ▸ mem) hi
  have matched : isMatched t (ofText o.token r.text) s :=
    isMatched_iff.mpr ⟨i, first?_of_nodup hn hs hi, known⟩
  simp [matched] at lone

end Reanalysed

theorem added_again_eq_nil {ss as : List Statement} (hg : o.generator = none)
    (hn : o.append → (t.statements.filterMap (·.signature)).Nodup) (h : merge o t d = .ok r)
    (h' : merge o t (ofText o.token r.text) = .ok r') (again : Reanalysed o t d r ss as) :
    r'.added t = [] := by
  have added := added_eq_of_merge ht hg h
  rw [added_eq_of_merge ht hg h']
  cases happ : o.append
  case false => rfl
  case true  =>
    rw [happ] at added
    exact again.unmatched_eq_nil ht hd ct cd added (nodup_signatures_iff.mp (hn happ))

theorem text_eq_of_merge (hg : o.generator = none)
    (hs : ¬o.append ∨ ¬d.Unclosed ∧ (t.statements.filterMap (·.signature)).Nodup)
    (h : merge o t d = .ok r) (h' : merge o t (ofText o.token r.text) = .ok r') :
    r'.text = r.text := by
  have added := added_eq_of_merge ht hg h
  have met : ¬(d.Unclosed ∧ r.addedBlocks t ≠ []) := by
    intro hu
    cases hs
    case inl hoff => exact hu.2 (addedBlocks_eq_nil hoff added)
    case inr hs   => exact hs.1 hu.1
  have ⟨ss, as, again⟩ := exists_reanalysed ht hd hg h met
  have distinct (happ : o.append) := (hs.resolve_left (not_not.mpr happ)).2
  have nothing := added_again_eq_nil ht hd ct cd hg distinct h h' again
  have ⟨shown, shows⟩ := Draft.exists_shows (not_mem_lines ht hd h)
  refine shows.text_eq_of_lines_eq ?_
  calc r'.lines
    _ = (ofText o.token r.text).lines.map (lineFor o t (ofText o.token r.text)) := by
      rw [lines_eq_append_added ht (ofSource_text o.token r.text) hg h', nothing, List.flatMap_nil,
        List.map_nil, List.append_nil]
    _ = (ofText o.token r.text).lines.map (·.raw) :=
      List.map_congr_left fun l _ => again.lineFor_eq ht hd ct cd added l
    _ = shown := by
      rw [map_raw_lines, shows.split_text (not_mem_lines ht hd h),
        map_dropReturn_of_shows ht hd ct cd h shows]

end Clean

-- Merging the same template again changes nothing.
theorem exists_text_eq_of_merged_twice (h : o.Answers) (hg : o.generator = none)
    (ht : ofSource o.token template = .ok t) (hd : ofSource o.token destination = .ok d)
    (ct : t.Clean) (cd : d.Clean)
    (hs : ¬o.append ∨ ¬d.Unclosed ∧ (t.statements.filterMap (·.signature)).Nodup) :
    ∃ r r', Yields o template destination r ∧ Yields o template (.text r.text) r' ∧
      r'.text = r.text := by
  have ⟨r, hr⟩ := exists_merge h t d
  have ⟨r', hr'⟩ := exists_merge h t (ofText o.token r.text)
  exact ⟨r, r', (yields_iff ht hd).mpr hr, (yields_iff ht (ofSource_text o.token r.text)).mpr hr',
    text_eq_of_merge ht hd ct cd hg hs hr hr'⟩

-- A block that the destination lacks is added behind the blank lines at its end.
def settings : Text :=
  "A=9\n# dotenv-merge:freeze\nC=3\n# dotenv-merge:unfreeze\nB='x'\n".toList

def untidySettings : Text :=
  "# c\nA=1\nD=4\nA=2\n\n\n".toList

theorem exists_text_eq_of_untidy_settings :
    ∃ r r', Yields templateFirst (.text settings) (.text untidySettings) r ∧
      Yields templateFirst (.text settings) (.text r.text) r' ∧ r'.text = r.text := by
  have closed : ¬(ofText defaultToken untidySettings).Unclosed :=
    not_unclosed_of_warnings (by decide +kernel)
  have ct : (ofText defaultToken settings).Clean := by decide +kernel
  have cd : (ofText defaultToken untidySettings).Clean := by decide +kernel
  have distinct : ((ofText defaultToken settings).statements.filterMap (·.signature)).Nodup :=
    nodup_signatures_iff.mpr (by decide +kernel)
  exact exists_text_eq_of_merged_twice templateFirst_answers rfl rfl rfl ct cd (.inr ⟨closed, distinct⟩)

end Merge
end EnvMerge
