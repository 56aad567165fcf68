import EnvMerge.Proofs.Files.Query

namespace EnvMerge

open FileSystem Merge

namespace Job

variable {α β : Type} {w w' : World} {p source target : Path} {c : Bytes} {t : Text} {e : Failure}
variable {caught caught' : Failure → Bool} {x y : Job World.Run α} {f : α → Job World.Run β}

-- A job that fails in certain ways only.
def Raises (caught : Failure → Bool) (x : Job World.Run α) : Prop :=
  ∀ w e w', x.run.run w = (.error e, w') → caught e = true

section Steps

theorem raises_pure (caught : Failure → Bool) (a : α) : Raises caught (pure a) :=
  fun _ _ _ h => by cases h

theorem raises_throw (h : caught e = true) : Raises caught (throw e : Job World.Run α) :=
  fun _ _ _ he => by
    cases he
    exact h

theorem raises_lift (caught : Failure → Bool) (y : World.Run α) : Raises caught (ExceptT.lift y) :=
  fun _ _ _ h => by cases h

theorem raises_ofFiles (y : World.Run (Except FileError α)) : Raises Failure.isSystem (ofFiles y) := by
  intro w e w' h
  change ((((y.run w).1.mapError Failure.file), (y.run w).2) : Id (Except Failure α × World)) = _ at h
  cases hy : (y.run w).1
  case ok      => simp [hy, Except.mapError] at h
  case error e =>
    rw [hy] at h
    cases h
    rfl

namespace Raises

theorem imp (h : Raises caught x) (hc : ∀ e, caught e = true → caught' e = true) : Raises caught' x :=
  fun w e w' he => hc e (h w e w' he)

theorem bind (hx : Raises caught x) (hf : ∀ a, Raises caught (f a)) : Raises caught (x >>= f) := by
  intro w e w' h
  rw [run_bind] at h
  split at h
  case h_1         => exact hf _ _ _ _ h
  case h_2 w₁ hx' =>
    cases h
    exact hx _ _ _ hx'

-- What is raised by a handler is what remains.
theorem tryCatch {handle : Failure → Job World.Run α} (hx : Raises caught x)
    (hh : ∀ e, caught e = true → Raises caught' (handle e)) : Raises caught' (tryCatch x handle) := by
  intro w e w' h
  rw [run_tryCatch] at h
  split at h
  case h_1         => cases h
  case h_2 w₁ hx' => exact hh _ (hx _ _ _ hx') _ _ _ h

theorem ite {c : Prop} [Decidable c] (hx : Raises caught x) (hy : Raises caught y) :
    Raises caught (if c then x else y) := by
  split
  case isTrue  => exact hx
  case isFalse => exact hy

theorem foldlM {step : β → α → Job World.Run β} {as : List α} (h : ∀ b, ∀ a ∈ as, Raises caught (step b a))
    (b : β) : Raises caught (as.foldlM step b) := by
  induction as generalizing b
  case nil => exact raises_pure _ _
  case cons a as ih =>
    rw [List.foldlM_cons]
    exact (h b a List.mem_cons_self).bind (ih fun b a hm => h b a (List.mem_cons_of_mem _ hm))

-- A job that fails in no way returns.
theorem exists_returns (h : Raises (fun _ => false) x) (w : World) : ∃ a w', Returns x w a w' := by
  cases hx : x.run.run w with
  | mk result w' =>
    cases result
    case ok a    => exact ⟨a, w', hx⟩
    case error e => cases h w e w' hx

end Raises

theorem raises_checkPath (caught : Failure → Bool) (known : p.hasNull = false) : Raises caught (checkPath p) := by
  rw [checkPath, if_neg (by simp [known])]
  exact raises_pure _ _

end Steps

section System

theorem raises_read (known : p.hasNull = false) : Raises Failure.isSystem (read p) :=
  (raises_checkPath _ known).bind fun _ => raises_ofFiles _

theorem raises_write (known : p.hasNull = false) (c : Bytes) : Raises Failure.isSystem (write p c) :=
  (raises_checkPath _ known).bind fun _ => raises_ofFiles _

theorem raises_status? (p : Path) : Raises Failure.isSystem (status? p) := by
  refine .ite (raises_pure _ _) ((raises_lift _ _).bind fun found => ?_)
  cases found
  case ok      => exact raises_pure _ _
  case error e => exact .ite (raises_pure _ _) (raises_throw rfl)

theorem raises_peek? (caught : Failure → Bool) (p : Path) : Raises caught (peek? p) :=
  .ite (raises_pure _ _) ((raises_lift _ _).bind fun _ => raises_pure _ _)

theorem raises_present (p : Path) : Raises Failure.isSystem (present p) :=
  (raises_status? p).bind fun _ => raises_pure _ _

theorem raises_digestOf (known : p.hasNull = false) (size : Int) : Raises Failure.isSystem (digestOf p size) :=
  (raises_read known).bind fun _ => raises_pure _ _

theorem raises_differ (hs : source.hasNull = false) (ht : target.hasNull = false) :
    Raises Failure.isSystem (differ source target) :=
  (raises_present target).bind fun _ => .ite ((raises_digestOf hs _).bind fun _ =>
    (raises_digestOf ht _).bind fun _ => raises_pure _ _) (raises_pure _ _)

theorem raises_allowFolder (p : Path) (e : FileError) : Raises Failure.isSystem (allowFolder p e) :=
  ((raises_status? p).bind fun _ => raises_pure _ _).bind fun _ => .ite (raises_throw rfl) (raises_pure _ _)

theorem raises_makeFolder (p : Path) : Raises Failure.isSystem (makeFolder p) := by
  refine (raises_lift _ _).bind fun made => ?_
  cases made
  case ok      => exact raises_pure _ _
  case error e => exact .ite (raises_throw rfl) (raises_allowFolder p e)

theorem raises_makeFoldersUpTo (depth : Nat) (p : Path) : Raises Failure.isSystem (makeFoldersUpTo depth p) := by
  induction depth generalizing p
  case zero          => exact makeFoldersUpTo_zero p ▸ raises_makeFolder p
  case succ depth ih =>
    rw [makeFoldersUpTo]
    refine (raises_lift _ _).bind fun made => ?_
    cases made
    case ok      => exact raises_pure _ _
    case error e => exact .ite ((ih p.parent).bind fun _ => raises_makeFolder p) (raises_allowFolder p e)

theorem raises_makeFolders (known : p.hasNull = false) : Raises Failure.isSystem (makeFolders p) :=
  (raises_checkPath _ known).bind fun _ => raises_makeFoldersUpTo _ p

theorem raises_writeText (known : p.hasNull = false) (t : Text) : Raises Failure.isSystem (writeText p t) :=
  (raises_makeFolders (Path.hasNull_parent known)).bind fun _ => raises_write known _

theorem raises_writeCopy (known : p.hasNull = false) (c : Bytes) : Raises Failure.isSystem (writeCopy p c) := by
  refine .tryCatch (raises_write known c) fun e he => .ite ?_ (raises_throw he)
  exact (raises_peek? _ p).bind fun _ => .ite (raises_throw rfl) (raises_throw he)

theorem raises_copy (hs : source.hasNull = false) (ht : target.hasNull = false) :
    Raises Failure.isSystem (copy source target) := by
  refine (raises_makeFolders (Path.hasNull_parent ht)).bind fun _ => (raises_peek? _ target).bind fun seen => ?_
  have place (inside : Bool) : (if inside then target.entryFor source else target).hasNull = false := by
    cases inside
    case false => exact ht
    case true  => exact Path.hasNull_entryFor ht hs
  refine (raises_checkPath _ hs).bind fun _ => (raises_checkPath _ (place _)).bind fun _ => ?_
  refine (raises_lift _ _).bind fun same => .ite (raises_throw rfl) ?_
  exact (raises_read hs).bind fun _ => raises_writeCopy (place _) _

theorem raises_readPresent (known : p.hasNull = false) : Raises Failure.isSystem (readPresent p) :=
  (raises_present p).bind fun _ => .ite (raises_read known) (raises_pure _ _)

theorem raises_outdated (known : p.hasNull = false) (t : Text) : Raises Failure.isSystem (outdated p t) :=
  (raises_present p).bind fun _ => .ite ((raises_digestOf known _).bind fun _ => raises_pure _ _) (raises_pure _ _)

theorem raises_update (check : Bool) (known : p.hasNull = false) (t : Text) :
    Raises Failure.isSystem (update check p t) := by
  refine (raises_outdated known t).bind fun changed => .ite ?_ (raises_pure _ _)
  exact (raises_writeText known t).bind fun _ => raises_pure _ _

end System

section Sources

variable {o : Options} {template destination : Path} {output : Option Path}

theorem raises_sources (answers : o.Answers) (template destination : Source) :
    Raises Failure.isParse (sources o template destination) := by
  intro w e w' h
  cases isParse_or_merge_eq_error (outcome_of_run h).1
  case inl parse => exact parse
  case inr failed =>
    have ⟨t, d, _, _, failed⟩ := failed
    have ⟨r, merged⟩ := exists_merge answers t d
    cases merged.symm.trans failed

-- The failures of a merge that are its files' or its sources'.
def readable (e : Failure) : Bool :=
  e.isSystem || e.isParse

theorem Raises.readable_of_isSystem (h : Raises Failure.isSystem x) : Raises readable x :=
  h.imp fun _ he => by simp [readable, he]

theorem raises_mergeFiles (answers : o.Answers) (check : Bool) (ht : template.hasNull = false)
    (hd : destination.hasNull = false) (ho : (output.getD destination).hasNull = false) :
    Raises readable (mergeFiles template destination output o check) := by
  rw [mergeFiles_eq]
  refine (raises_read ht).readable_of_isSystem.bind fun a => (raises_readPresent hd).readable_of_isSystem.bind
    fun b => .bind ?_ fun draft => (raises_update check ho _).readable_of_isSystem.bind fun _ =>
      (raises_lift _ _).bind fun _ => raises_pure _ _
  exact (raises_sources answers _ _).imp fun _ he => by simp [readable, he]

end Sources
end Job

namespace Scan

open Job

variable {folder : Path} {names : List Text}

theorem raises_visit (known : (folder.join (.relative names)).hasNull = false) (r : Report) :
    Raises (fun _ => false) (visit folder false r names) := by
  have info : Raises Failure.isSystem (fileInfo folder names) :=
    (raises_ofFiles _).bind fun _ => (raises_digestOf known _).bind fun _ => raises_pure _ _
  refine .tryCatch (info.bind fun _ => raises_pure _ _) fun e he => ?_
  simp only [he, Bool.not_false, Bool.and_true, if_true]
  exact raises_pure _ _

-- A scan returns whatever it meets.
theorem exists_returns_run (pattern : Text) (known : folder.hasNull = false) (w : World) :
    ∃ r, Returns (run folder pattern false) w r w := by
  have visited : Raises (fun _ => false)
      ((visits pattern (w.files.filesBelow folder)).foldlM (visit folder false) ⟨[], []⟩) :=
    .foldlM (fun r names hm => raises_visit (hasNull_of_mem_visits known hm) r) _
  have ⟨r, w', folded⟩ := visited.exists_returns w
  have scanned := returns_run_iff.mpr ⟨known, folded⟩
  have same := looks_run folder pattern false w
  rw [scanned] at same
  exact ⟨r, same ▸ scanned⟩

end Scan
end EnvMerge
