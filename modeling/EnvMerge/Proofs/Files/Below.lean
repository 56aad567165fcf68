import EnvMerge.Proofs.Files.Growth
import Mathlib.Data.List.Nodup

namespace EnvMerge.FileSystem

variable {fs : FileSystem} {folder : Path} {n : Node} {names : List Text} {c : Bytes}

-- A path is no shorter than that of a folder on the way.
theorem isTooLong_of_prefix {p q : Path} (longer : p.toText <+: q.toText) (h : isTooLong q = false) :
    isTooLong p = false := by
  have ⟨rest, hr⟩ := longer
  rw [isTooLong, ← hr, Utf8.encode, List.flatMap_append, List.length_append] at h
  rw [isTooLong, Utf8.encode]
  simp only [decide_eq_false_iff_not] at h ⊢
  omega

theorem isTooLong_of_under (h : isTooLong (folder.under names) = false) : isTooLong folder = false :=
  isTooLong_of_prefix (folder.prefix_toText_under names) h

-- A dot in front is no longer than a name at the end.
theorem length_encode_dot_le {last : Text} (hl : last ≠ []) (names : List Text) :
    (Utf8.encode (['/'].intercalate (['.'] :: names))).length ≤
      (Utf8.encode (['/'].intercalate (names ++ [last]))).length := by
  have dot : (Utf8.encode ['.']).length = 1 := by decide
  have size : 0 < (Utf8.encode last).length := by
    cases last
    case nil      => exact absurd rfl hl
    case cons c t =>
      have some : 0 < (Utf8.encodeChar c).length := by
        rw [Utf8.encodeChar]
        split_ifs <;> simp
      rw [Utf8.encode, List.flatMap_cons, List.length_append]
      omega
  have split (name name' : Text) (rest : List Text) :
      (Utf8.encode (['/'].intercalate (name :: name' :: rest))).length =
        (Utf8.encode name).length + 1 + (Utf8.encode (['/'].intercalate (name' :: rest))).length := by
    have slash : (Utf8.encodeChar '/').length = 1 := by decide
    simp only [List.intercalate_cons_cons, Utf8.encode, List.flatMap_append, List.length_append,
      List.flatMap_singleton, slash]
  have single (name : Text) : ['/'].intercalate [name] = name := by simp
  induction names
  case nil => rw [single, List.nil_append, single, dot]; exact size
  case cons name names ih =>
    cases names
    case nil => simp only [List.cons_append, List.nil_append, split, single, dot]; omega
    case cons name' names =>
      simp only [List.cons_append, split, dot] at ih ⊢
      omega

-- A file's path is no shorter than the one that its folder is listed by.
theorem isTooLong_under_dropLast (hp : Path.Proper names)
    (h : isTooLong (folder.join (.relative names)) = false) : isTooLong (folder.under names.dropLast) = false := by
  cases names using List.reverseRecOn
  case nil => exact absurd rfl hp.some
  case append_singleton names last _ =>
    rw [List.dropLast_concat]
    by_cases hs : folder.root ≠ [] ∨ folder.names ≠ []
    case pos =>
      have written : folder.join (.relative (names ++ [last])) = (folder.under names).under [last] := by
        rw [← Path.under_append, Path.join_relative, Path.under, Path.shownNames_eq hs]
      exact isTooLong_of_under (written ▸ h)
    case neg =>
      obtain ⟨_, _⟩ := folder
      obtain ⟨rfl, rfl⟩ := by simpa using hs
      have dotted : ((⟨[], []⟩ : Path).under names).toText = ['/'].intercalate (['.'] :: names) := rfl
      have plain : ((⟨[], []⟩ : Path).join (.relative (names ++ [last]))).toText =
          ['/'].intercalate (names ++ [last]) := by
        rw [Path.join_relative]
        exact Path.toText_relative (by simp)
      have shorter := length_encode_dot_le (hp.plain last (by simp)).some names
      simp only [isTooLong, dotted, plain, decide_eq_false_iff_not, Nat.not_lt] at h ⊢
      exact Nat.le_trans shorter h

theorem locate_folder (hl : fs.Linkless) (ha : fs.Anchored folder)
    (short : isTooLong folder = false) (hf : fs.node? (fs.place folder) = some .folder) :
    fs.locate .node folder = .ok (fs.place folder) :=
  locate_of_leads hl (by simp) ⟨short, ha.begun⟩ (leads_of_anchoredFrom ha.turns hf)

-- What stands somewhere below the folder that a path leads to.
def below? (fs : FileSystem) (folder : Path) (names : List Text) : Option Node :=
  match fs.locate .node folder with
  | .ok base => fs.node? (base ++ names)
  | .error _ => none

theorem below?_eq_some_iff : fs.below? folder names = some n ↔
    ∃ base, fs.locate .node folder = .ok base ∧ fs.node? (base ++ names) = some n := by
  rw [below?]
  split
  case h_1 base hb => simp [hb]
  case h_2 e hb    => simp [hb]

-- A file, or a link whose path does not lead to a folder.
inductive Leaf (fs : FileSystem) (folder : Path) (names : List Text) : Prop
  | file {c : Bytes} (stands : fs.below? folder names = some (.file c)) : Leaf fs folder names
  | link {target : Text} (stands : fs.below? folder names = some (.link target))
      (other : fs.leadsToFolder (folder.under names) = false) : Leaf fs folder names

theorem Leaf.exists_node (h : fs.Leaf folder names) :
    ∃ base n, fs.locate .node folder = .ok base ∧ fs.node? (base ++ names) = some n := by
  cases h
  case file stands =>
    have ⟨base, hb, hn⟩ := below?_eq_some_iff.mp stands
    exact ⟨base, _, hb, hn⟩
  case link stands _ =>
    have ⟨base, hb, hn⟩ := below?_eq_some_iff.mp stands
    exact ⟨base, _, hb, hn⟩

theorem Leaf.entryName (h : fs.Leaf folder names) : ∀ name ∈ names, EntryName name :=
  have ⟨_, _, _, stands⟩ := h.exists_node
  entryName_of_append (Option.isSome_of_eq_some stands)

theorem leaf_iff {base : Location} (hb : fs.locate .node folder = .ok base)
    (hn : fs.node? (base ++ names) = some n) :
    fs.Leaf folder names ↔ filesBelow.isLeaf fs folder names n = true := by
  have stands : fs.below? folder names = some n := below?_eq_some_iff.mpr ⟨base, hb, hn⟩
  constructor
  case mp =>
    intro h
    cases h
    case file stands' =>
      cases stands.symm.trans stands'
      rfl
    case link stands' other =>
      cases stands.symm.trans stands'
      rw [filesBelow.isLeaf, other]
      rfl
  case mpr =>
    intro h
    cases n
    case folder      => cases h
    case file c      => exact .file stands
    case link target => exact .link stands (by simpa [filesBelow.isLeaf] using h)

theorem leaf_of_mem_filesBelow (h : names ∈ fs.filesBelow folder) : names ≠ [] ∧ fs.Leaf folder names ∧
    isTooLong (folder.under names.dropLast) = false := by
  rw [filesBelow] at h
  split at h
  case h_2 => simp at h
  case h_1 base hb =>
    split at h
    case isFalse => simp at h
    case isTrue hf =>
      simp only [List.mem_filterMap, Option.ite_none_right_eq_some, Bool.and_eq_true, bne_iff_ne,
        List.isPrefixOf_iff_prefix, Bool.not_eq_true', Option.some.injEq] at h
      obtain ⟨⟨loc, n⟩, hm, ⟨⟨⟨⟨rest, hp⟩, hne⟩, leaf⟩, short⟩, hd⟩ := h
      dsimp only at hp hne leaf hd
      subst hp
      rw [List.drop_left] at leaf short hd
      subst hd
      have hn : rest ≠ [] := by simpa using hne
      exact ⟨hn, (leaf_iff hb ((mem_entries_iff (by simp [hn])).mp hm)).mpr leaf, short⟩

-- What the look below a folder finds.
theorem mem_filesBelow_iff_leaf : names ∈ fs.filesBelow folder ↔ names ≠ [] ∧
    fs.Leaf folder names ∧ isTooLong (folder.under names.dropLast) = false := by
  constructor
  case mp  => exact leaf_of_mem_filesBelow
  case mpr =>
    rintro ⟨hn, leaf, short⟩
    obtain ⟨base, n, hb, stands⟩ := leaf.exists_node
    have hf := folder_of_append hn (Option.isSome_of_eq_some stands)
    rw [filesBelow, hb]
    simp only [hf, Option.any_some, Node.isFolder, if_true, List.mem_filterMap]
    refine ⟨(_, _), (mem_entries_iff (by simp [hn])).mpr stands, ?_⟩
    simp [hn, (leaf_iff hb stands).mp leaf, short]

-- The same without links, where all but folders are files.
theorem mem_filesBelow_iff (hl : fs.Linkless) (ha : fs.Anchored folder) :
    names ∈ fs.filesBelow folder ↔ names ≠ [] ∧
      isTooLong (folder.under names.dropLast) = false ∧
        (fs.content? (fs.place folder ++ names)).isSome := by
  rw [mem_filesBelow_iff_leaf]
  constructor
  case mp =>
    rintro ⟨hn, leaf, short⟩
    refine ⟨hn, short, ?_⟩
    cases leaf
    case file c stands =>
      obtain ⟨base, hb, stands⟩ := below?_eq_some_iff.mp stands
      rw [← (of_locate hl hb).2.2, content?, stands]
      rfl
    case link stands _ =>
      obtain ⟨base, _, stands⟩ := below?_eq_some_iff.mp stands
      exact absurd stands (hl _ _)
  case mpr =>
    rintro ⟨hn, short, hc⟩
    obtain ⟨c, hc⟩ := Option.isSome_iff_exists.mp hc
    have stands := content?_eq_some_iff.mp hc
    have hf := folder_of_append hn (Option.isSome_of_eq_some stands)
    have hb := locate_folder hl ha (isTooLong_of_under short) hf
    exact ⟨hn, .file (below?_eq_some_iff.mpr ⟨_, hb, stands⟩), short⟩

theorem nodup_filesBelow (fs : FileSystem) (folder : Path) : (fs.filesBelow folder).Nodup := by
  rw [filesBelow]
  split
  case h_2 => exact List.nodup_nil
  case h_1 =>
    split
    case isFalse => exact List.nodup_nil
    case isTrue =>
      rw [List.Nodup, List.pairwise_filterMap]
      refine (List.pairwise_map.mp fs.distinct).imp fun {a b} hne x hx y hy he => hne ?_
      simp only [Option.ite_none_right_eq_some, Bool.and_eq_true, List.isPrefixOf_iff_prefix,
        Option.some.injEq] at hx hy
      obtain ⟨⟨⟨⟨⟨_, ha⟩, _⟩, _⟩, _⟩, hx⟩ := hx
      obtain ⟨⟨⟨⟨⟨_, hb⟩, _⟩, _⟩, _⟩, hy⟩ := hy
      rw [← ha, List.drop_left] at hx
      rw [← hb, List.drop_left] at hy
      rw [← ha, ← hb, hx, hy, he]

theorem proper_of_mem_filesBelow (h : names ∈ fs.filesBelow folder) : Path.Proper names :=
  have ⟨hn, leaf, _⟩ := mem_filesBelow_iff_leaf.mp h
  ⟨fun name hm => (leaf.entryName name hm).toPlain, hn⟩

theorem hasNull_of_mem_filesBelow (h : names ∈ fs.filesBelow folder) :
    (Path.relative names).hasNull = false := by
  have ⟨_, leaf, _⟩ := mem_filesBelow_iff_leaf.mp h
  rw [Path.hasNull, List.any_eq_false]
  exact fun name hm => by simpa using (leaf.entryName name hm).known

end EnvMerge.FileSystem
