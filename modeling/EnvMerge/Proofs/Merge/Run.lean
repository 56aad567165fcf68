import EnvMerge.Proofs.Document.Layout
import EnvMerge.Proofs.Merge.Resolution

namespace EnvMerge.Merge

variable {m : Type → Type} [Monad m] [LawfulMonad m] [Journal m]
variable {o : Options} {template destination : Source} {t d : Document} {r : Draft}

-- What a run reports once both sources are read.
def endEvents (o : Options) (template destination : Document) : List Event :=
  match Pairing.ofDocuments o.signer template destination with
  | .error _    => [.ended]
  | .ok entries => [.ofEntries entries, .ended]

-- All that a run reports.
def events (o : Options) (template destination : Document) : List Event :=
  template.events o.generator.isSome ++ destination.events o.generator.isSome ++
    endEvents o template destination

theorem run_readSource {role : Side} {source : Source} (h : Document.ofSource o.token source = .ok d) :
    (readSource o role source : ExceptT Failure m Document).run = do
      (d.events o.generator.isSome).forM Journal.record
      return .ok d := by
  have lifted (es : List Event) :
      (forM es fun e => ExceptT.lift (Journal.record e) : ExceptT Failure m Unit).run
        = .ok <$> forM es (Journal.record : Event → m Unit) := by
    induction es
    case nil => simp
    case cons e es ih => simp [ih]
  simp [readSource, h, lifted, Except.map]

theorem run_documents :
    (documents o t d : ExceptT Failure m Draft).run = do
      (endEvents o t d).forM Journal.record
      return merge o t d := by
  cases h : Pairing.ofDocuments o.signer t d
  case error e =>
    have : merge o t d = .error e := by rw [merge, h]; rfl
    simp [documents, endEvents, h, this]
  case ok entries =>
    have : merge o t d = ofEntries o t d entries := by rw [merge, h]; rfl
    simp [documents, endEvents, h, this]

theorem run_sources (ht : Document.ofSource o.token template = .ok t)
    (hd : Document.ofSource o.token destination = .ok d) :
    (sources o template destination : ExceptT Failure m Draft).run = do
      (events o t d).forM Journal.record
      return merge o t d := by
  simp [sources, ExceptT.run_bind, run_readSource ht, run_readSource hd, run_documents, events]

-- Whether a run on two sources returns a draft, in whatever journal its events are recorded.
def Yields (o : Options) (template destination : Source) (r : Draft) : Prop :=
  ∀ (m : Type → Type) [Monad m] [LawfulMonad m] [Journal m], ∃ events : List Event,
    (sources o template destination : ExceptT Failure m Draft).run = do
      events.forM Journal.record
      return .ok r

theorem yields_iff (ht : Document.ofSource o.token template = .ok t)
    (hd : Document.ofSource o.token destination = .ok d) :
    Yields o template destination r ↔ merge o t d = .ok r := by
  constructor
  case mp =>
    intro h
    have ⟨_, he⟩ := h Id
    rw [run_sources ht hd] at he
    exact he
  case mpr =>
    intro h m _ _ _
    exact ⟨events o t d, by rw [run_sources ht hd, h]⟩

-- What a run returns.
def outcome (o : Options) (template destination : Source) : Except Failure Draft :=
  match Document.ofSource o.token template, Document.ofSource o.token destination with
  | .error fault, _       => .error (.parse (fault.within .template))
  | .ok _, .error fault   => .error (.parse (fault.within .destination))
  | .ok t, .ok d          => merge o t d

-- What a run reports until then.
def report (o : Options) (template destination : Source) : List Event :=
  match Document.ofSource o.token template, Document.ofSource o.token destination with
  | .error _, _     => []
  | .ok t, .error _ => t.events o.generator.isSome
  | .ok t, .ok d    => events o t d

omit [LawfulMonad m] in
theorem run_readSource_error {role : Side} {source : Source} {fault : ParseFault}
    (h : Document.ofSource o.token source = .error fault) :
    (readSource o role source : ExceptT Failure m Document).run
      = pure (.error (.parse (fault.within role))) := by
  simp [readSource, h]

-- Every run reports some events and then returns, or fails.
theorem run_sources_eq (o : Options) (template destination : Source) :
    (sources o template destination : ExceptT Failure m Draft).run = do
      (report o template destination).forM Journal.record
      return outcome o template destination := by
  cases ht : Document.ofSource o.token template
  case error fault =>
    simp [sources, ExceptT.run_bind, run_readSource_error ht, report, outcome, ht]
  case ok t =>
    cases hd : Document.ofSource o.token destination
    case error fault =>
      simp [sources, ExceptT.run_bind, run_readSource ht, run_readSource_error hd, report, outcome, ht, hd]
    case ok d => simp [run_sources ht hd, report, outcome, ht, hd]

theorem outcome_eq_ok_iff : outcome o template destination = .ok r ↔
    ∃ t d, Document.ofSource o.token template = .ok t ∧
      Document.ofSource o.token destination = .ok d ∧ merge o t d = .ok r := by
  cases ht : Document.ofSource o.token template <;>
    cases hd : Document.ofSource o.token destination <;> simp [outcome, ht, hd]

-- A run fails because a source is no text, or because the merge of the two documents does.
theorem isParse_or_merge_eq_error {e : Failure} (h : outcome o template destination = .error e) :
    e.isParse = true ∨ ∃ t d, Document.ofSource o.token template = .ok t ∧
      Document.ofSource o.token destination = .ok d ∧ merge o t d = .error e := by
  rw [outcome] at h
  split at h
  case h_1 | h_2 =>
    cases h
    exact .inl rfl
  case h_3 t d ht hd => exact .inr ⟨t, d, ht, hd, h⟩

theorem yields_iff_outcome_eq : Yields o template destination r ↔ outcome o template destination = .ok r := by
  constructor
  case mp =>
    intro h
    have ⟨_, he⟩ := h Id
    rw [run_sources_eq] at he
    exact he
  case mpr =>
    intro h m _ _ _
    exact ⟨report o template destination, by rw [run_sources_eq, h]⟩

theorem exists_merge_of_yields (h : Yields o template destination r) :
    ∃ t d, Document.ofSource o.token template = .ok t ∧
      Document.ofSource o.token destination = .ok d ∧ merge o t d = .ok r :=
  outcome_eq_ok_iff.mp (yields_iff_outcome_eq.mp h)

-- Any part of what a run returns can be computed from the entries in order, where nothing is sorted.
theorem Yields.eq_of_ordered {α : Type} {part : Draft → α} {x : α} (h : Yields o template destination r)
    (ht : Document.ofSource o.token template = .ok t) (hd : Document.ofSource o.token destination = .ok d)
    (computed : (ordered o t d).toOption.map part = some x) : part r = x := by
  rw [← merge_eq_ordered, (yields_iff ht hd).mp h] at computed
  exact Option.some.inj computed

-- If the rules answer, then a run on two texts returns a draft.
theorem exists_yields (h : o.Answers) (ht : Document.ofSource o.token template = .ok t)
    (hd : Document.ofSource o.token destination = .ok d) : ∃ r, Yields o template destination r :=
  (exists_merge h t d).imp fun _ => (yields_iff ht hd).mpr

-- No line of a merge has a line feed in it.
theorem not_mem_lines (ht : Document.ofSource o.token template = .ok t)
    (hd : Document.ofSource o.token destination = .ok d) (h : merge o t d = .ok r) :
    ∀ line ∈ r.lines, '\n' ∉ line := by
  have ⟨ts, ds, kept, trail⟩ := merge_eq_ok_iff.mp h
  intro line hl
  have ⟨s, hs, hr⟩ := trail.exists_statement hl
  cases hs
  case inl hs => exact Document.not_mem_rawLines ht hs hr
  case inr hs => exact Document.not_mem_rawLines hd hs hr

end EnvMerge.Merge
