import DebugGateway.Daemon
import DebugGateway.Proofs.Text.Words

namespace DebugGateway

namespace Text

theorem readable_text {line : List UInt8} {text : String} (read : ofBytes line = .ok text)
    (lines : List (List UInt8)) : (readable (line :: lines)).1 = text :: (readable lines).1 := by
  rw [readable, read]

theorem readable_fault {line : List UInt8} {fault : Utf8Fault} (read : ofBytes line = .error fault)
    (lines : List (List UInt8)) : (readable (line :: lines)).1 = [] := by
  rw [readable, read]

end Text

namespace OperatorCommand

theorem spelled {word : List Char} {c : OperatorCommand}
    (spells : (String.ofList (word.map Char.toLower), c) ∈ spellings) :
    word ≠ [] ∧ ∀ letter ∈ word, Text.isBlank letter = false := by
  have solid : ∀ entry ∈ spellings, entry.1.toList ≠ [] ∧
      entry.1.toList.all (fun letter => !Text.isBlank letter) = true := by decide
  obtain ⟨full, bare⟩ := solid _ spells
  rw [String.toList_ofList] at full bare
  refine ⟨fun empty => full (by rw [empty]; rfl), fun letter member => ?_⟩
  cases blank : Text.isBlank letter with
  | false => rfl
  | true =>
    have lowered := List.all_eq_true.mp bare _ (List.mem_map_of_mem member)
    rw [Text.isBlank_toLower, blank] at lowered
    cases lowered

theorem ofLines_append (first second : List String) :
    ofLines (first ++ second) = ofLines first ++ ofLines second := List.filterMap_append

end OperatorCommand

end DebugGateway
