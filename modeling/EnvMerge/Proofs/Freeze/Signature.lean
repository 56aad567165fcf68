import EnvMerge.Proofs.Document.Identity
import EnvMerge.Proofs.Text.Words

namespace EnvMerge

-- Whether two statements have signatures, and equal ones.
def Statement.SameSignature (s s' : Statement) : Prop :=
  ∃ d d', s.signature = some d ∧ s'.signature = some d' ∧ d.key = d'.key

-- Signatures are equal where identities are.
theorem Statement.sameSignature_iff {s s' : Statement} :
    s.SameSignature s' ↔ ∃ i, s.identity? = some i ∧ s'.identity? = some i := by
  simp only [SameSignature, signature_eq, Option.map_eq_some_iff]
  constructor
  case mp =>
    intro ⟨_, _, ⟨i, hi, he⟩, ⟨j, hj, he'⟩, same⟩
    subst he he'
    cases Identity.key_signature_inj.mp same
    exact ⟨i, hi, hj⟩
  case mpr => exact fun ⟨i, hi, hj⟩ => ⟨_, _, ⟨i, hi, rfl⟩, ⟨i, hj, rfl⟩, rfl⟩

namespace Block

-- The words of a block's content: its raw lines, with a line feed between any two.
def words (b : Block) : List Text :=
  Text.words (['\n'].intercalate (b.lines.map (·.raw)))

-- What the words of a block decide.
structure KnownByWords (b : Block) : Prop where
  normal : ∃ t : Text, (Statement.frozen b).signature = some (.tuple [.text "FrozenBlock".toList, .text t]) ∧
    t.SinglySpaced ∧ t.words = b.words
  same   : ∀ b' : Block, (Statement.frozen b).SameSignature (.frozen b') ↔ b.words = b'.words
  apart  : ∀ l : Line, ¬(Statement.frozen b).SameSignature (.line l)

theorem words_text (b : Block) : b.text.words = b.words :=
  rfl

-- Two blocks have one signature if and only if their raw lines have the same words in the same order, however
-- these are spaced and broken into lines. No assignment has the signature of a block.
theorem knownByWords (b : Block) : b.KnownByWords where
  normal :=
    ⟨b.text.normalSpace, rfl, Text.singlySpaced_normalSpace b.text, Text.words_normalSpace b.text⟩
  same b' := by
    rw [Statement.sameSignature_iff, ← words_text, ← words_text, ← Text.normalSpace_eq_iff]
    simp only [Statement.identity?, Option.some.injEq, exists_eq_left', Identity.words.injEq]
    exact eq_comm
  apart l := by
    rw [Statement.sameSignature_iff, not_exists]
    rintro i ⟨hi, hl⟩
    obtain ⟨key, _, rfl⟩ := Option.map_eq_some_iff.mp hl
    cases hi

-- The block of all given lines.
def ofRawLines (raw : List Text) : Block :=
  ⟨⟨1, raw.length⟩, Line.numberedFrom 1 raw, none⟩

def secret : Block :=
  ofRawLines ["# dotenv-merge:freeze".toList, "A=1 2".toList, "# dotenv-merge:unfreeze".toList]

-- The same words, with other blanks and line breaks between them.
def secretRespaced : Block :=
  ofRawLines ["#\tdotenv-merge:freeze ".toList, [], " A=1".toList, "2 #".toList, "dotenv-merge:unfreeze".toList]

def secretChanged : Block :=
  ofRawLines ["# dotenv-merge:freeze".toList, "A=1 3".toList, "# dotenv-merge:unfreeze".toList]

-- Other spacing leaves the signature as it is, another word does not.
theorem knownByWords_secret :
    (Statement.frozen secret).SameSignature (.frozen secretRespaced) ∧
    ¬(Statement.frozen secret).SameSignature (.frozen secretChanged) ∧
    ¬(Statement.frozen secret).SameSignature (.line (.ofRaw "A=1 2".toList 2)) := by
  have known := knownByWords secret
  refine ⟨(known.same secretRespaced).mpr ?spaced, fun same => ?changed, known.apart _⟩
  case spaced  => decide +kernel
  case changed => exact absurd ((known.same secretChanged).mp same) (by decide +kernel)

end Block
end EnvMerge
