import PropertyGraph.Proofs.Cypher.Spelling

/-!
Every string can be written as a literal: with a backslash before each backslash and each quote of
the literal's own kind, it is read back as it was.

An escape is one character behind a backslash, so escapes side by side do not run together: the
text is a body of the literal, piece by piece, and no quote in it stands free.
-/

namespace PropertyGraph

namespace Cypher

/-- The characters of a string as they stand between two quotes. -/
def escaped (quote : Char) (cs : List Char) : List Char :=
  cs.flatMap fun c => if c = '\\' ∨ c = quote then ['\\', c] else [c]

/-- The literal for a string. -/
def literal (quote : Char) (v : String) : String :=
  String.ofList (quote :: (escaped quote v.toList ++ [quote]))

section

variable {quote : Char} (hq : quote = '\'' ∨ quote = '"')

include hq

lemma unescape_special {c : Char} (hc : c = '\\' ∨ c = quote) : unescape c = [c] := by
  rcases hc with rfl | rfl
  · rfl
  · rcases hq with rfl | rfl <;> rfl

/-- An escaped string stands for itself. -/
lemma body_escaped (cs : List Char) : Body quote (escaped quote cs) cs := by
  induction cs with
  | nil => exact .nil
  | cons c cs ih =>
    rw [escaped, List.flatMap_cons, ← escaped]
    split_ifs with hc
    · have hbody := Body.escape (c := c) ih
      rwa [unescape_special hq hc] at hbody
    · rw [not_or] at hc
      exact .char hc.2 hc.1 ih

lemma spells_literal (v : String) : Spells (literal quote v).toList (.string v) := by
  have hspells := Spells.string hq (body_escaped hq v.toList)
  rwa [String.ofList_toList, ← String.toList_ofList (l := quote :: _)] at hspells

/-- **Every string can be written as a literal**, in quotes of either kind: the text is one token,
with nothing before or behind it, and the token has the string for its value. -/
theorem tokenize_literal (v : String) :
    tokenize (literal quote v) = .ok [⟨.string v, 0, (literal quote v).utf8ByteSize⟩] := by
  have hspells := spells_literal hq v
  have hapart : Apart [] := nofun
  obtain ⟨htrivia, hopen⟩ := trivia?_of_spells hspells hapart
  have hscan := scan?_of_spells hspells hapart
  rw [List.append_nil] at htrivia hopen hscan
  refine tokenize_iff.2 (.token (.stop htrivia) hopen hscan rfl rfl ?_ (.done (.stop rfl)))
  rw [byteLength_toList, Nat.zero_add]

end

/-- Backslashes before a letter, before the other quote and before the end. -/
theorem tokenize_literal_backslashes :
    literal '"' "\\n\n'\"\\" = "\"\\\\n\n'\\\"\\\\\"" ∧
      tokenize "\"\\\\n\n'\\\"\\\\\"" = .ok [⟨.string "\\n\n'\"\\", 0, 11⟩] :=
  ⟨by decide, tokenize_literal (.inr rfl) "\\n\n'\"\\"⟩

end Cypher

end PropertyGraph
