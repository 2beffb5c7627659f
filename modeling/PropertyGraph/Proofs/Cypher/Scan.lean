import Mathlib.Data.List.TakeDrop
import Mathlib.Data.Option.Basic
import Mathlib.Tactic.Common
import PropertyGraph.Cypher.Scan
import PropertyGraph.Proofs.Except

/-!
Scanners split what they take off the front of a text, so that text and rest together are what was
given. So a place in the text is known by what is left after it, and all tokens begin inside the
text.
-/

namespace PropertyGraph

namespace Cypher

/-! ### Bytes -/

@[simp] lemma byteLength_append (cs ds : List Char) :
    byteLength (cs ++ ds) = byteLength cs + byteLength ds := by
  induction cs with
  | nil => simp [byteLength]
  | cons c cs ih =>
    change c.utf8Size + byteLength (cs ++ ds) = c.utf8Size + byteLength cs + byteLength ds
    omega

lemma byteLength_cons_pos (c : Char) (cs : List Char) : 0 < byteLength (c :: cs) :=
  Nat.add_pos_left c.utf8Size_pos _

lemma utf8ByteSize_ofList (cs : List Char) : (String.ofList cs).utf8ByteSize = byteLength cs := by
  induction cs with
  | nil => simp [byteLength]
  | cons c cs ih =>
    have hsplit : String.ofList (c :: cs) = String.singleton c ++ String.ofList cs := by
      rw [String.singleton_eq_ofList, ← String.ofList_append]
      rfl
    rw [hsplit, String.utf8ByteSize_append, String.utf8ByteSize_singleton, ih]
    rfl

lemma byteLength_toList (s : String) : byteLength s.toList = s.utf8ByteSize := by
  rw [← utf8ByteSize_ofList, String.ofList_toList]

/-! ### Blanks and comments -/

lemma splitAfterClose?_eq_some {cs : List Char} {r : List Char × List Char}
    (h : splitAfterClose? cs = some r) : r.1 ++ r.2 = cs := by
  fun_induction splitAfterClose? cs generalizing r with
  | case1 rest =>
    obtain rfl := Option.some.inj h
    rfl
  | case2 c rest _ ih =>
    obtain ⟨q, hq, rfl⟩ := Option.map_eq_some_iff.1 h
    exact congrArg (c :: ·) (ih hq)
  | case3 => cases h

lemma span_append (p : Char → Bool) (cs : List Char) : (cs.span p).1 ++ (cs.span p).2 = cs := by
  rw [List.span_eq_takeWhile_dropWhile, List.takeWhile_append_dropWhile]

lemma span_eq {p : Char → Bool} {cs text rest : List Char} (h : cs.span p = (text, rest)) :
    text ++ rest = cs := by
  have := span_append p cs
  rwa [h] at this

/-- What is left does not go on with what is taken. -/
lemma span_head {p : Char → Bool} {cs text rest : List Char} (h : cs.span p = (text, rest)) :
    ∀ c ∈ rest.head?, p c = false := by
  have hhead := List.head?_dropWhile_not p cs
  rw [List.span_eq_takeWhile_dropWhile] at h
  obtain ⟨-, rfl⟩ := Prod.mk.inj h
  intro c hc
  rw [Option.mem_def] at hc
  rwa [hc] at hhead

lemma span_of_all {p : Char → Bool} {cs rest : List Char} (h : ∀ c ∈ cs, p c = true)
    (hr : ∀ c ∈ rest.head?, p c = false) : (cs ++ rest).span p = (cs, rest) := by
  rw [List.span_eq_takeWhile_dropWhile]
  have ht : rest.takeWhile p = [] := by
    cases rest with
    | nil => rfl
    | cons c cs => rw [List.takeWhile_cons_of_neg (by simpa using hr c rfl)]
  have hd : rest.dropWhile p = rest := by
    cases rest with
    | nil => rfl
    | cons c cs => rw [List.dropWhile_cons_of_neg (by simpa using hr c rfl)]
  rw [List.takeWhile_append_of_pos h, List.dropWhile_append_of_pos h, ht, hd, List.append_nil]

/-- More text goes to what is left, if it does not go on with what is taken. -/
lemma span_append_of_head {p : Char → Bool} {cs ds : List Char}
    (h : ∀ c ∈ ((cs.span p).2 ++ ds).head?, p c = false) :
    (cs ++ ds).span p = ((cs.span p).1, (cs.span p).2 ++ ds) := by
  have hall : ∀ c ∈ (cs.span p).1, p c = true := by
    rw [List.span_eq_takeWhile_dropWhile]
    exact List.all_eq_true.1 List.all_takeWhile
  refine Eq.trans ?_ (span_of_all hall h)
  rw [← List.append_assoc, span_append]

lemma lineComment?_eq_some {cs : List Char} {r : List Char × List Char}
    (h : lineComment? cs = some r) : r.1 ++ r.2 = cs := by
  rw [lineComment?.eq_def] at h
  split at h
  · rename_i cs
    have hbody := span_append (fun c => c != '\n' && c != '\r') cs
    dsimp only at h
    split at h
    all_goals cases h
    all_goals exact congrArg ('/' :: '/' :: ·) hbody
  · cases h

lemma blockComment?_eq_some {cs : List Char} {r : List Char × List Char}
    (h : blockComment? cs = some r) : r.1 ++ r.2 = cs := by
  rw [blockComment?.eq_def] at h
  split at h
  · obtain ⟨q, hq, rfl⟩ := Option.map_eq_some_iff.1 h
    exact congrArg ('/' :: '*' :: ·) (splitAfterClose?_eq_some hq)
  · cases h

lemma trivia?_eq_some {cs : List Char} {r : List Char × List Char} (h : trivia? cs = some r) :
    r.1 ++ r.2 = cs := by
  rw [trivia?] at h
  split at h
  · rcases (Option.orElse_eq_some ..).1 h with h | ⟨-, h⟩
    · exact lineComment?_eq_some h
    · exact blockComment?_eq_some h
  · rename_i r' _
    obtain rfl := Option.some.inj h
    exact span_append isSpace cs

/-- What is skipped is what the offset moves by. -/
lemma skipTrivia_offset (fuel offset : Nat) (cs : List Char) :
    (skipTrivia fuel offset cs).1 + byteLength (skipTrivia fuel offset cs).2 =
      offset + byteLength cs := by
  induction fuel generalizing offset cs with
  | zero => rfl
  | succ fuel ih =>
    rw [skipTrivia]
    cases h : trivia? cs with
    | none => rfl
    | some r =>
      dsimp only
      rw [ih, ← trivia?_eq_some h, byteLength_append, Nat.add_assoc]

/-! ### Tokens -/

lemma exponentPart?_eq_some {cs : List Char} {r : Int × List Char}
    (h : Number.exponentPart? cs = some r) : r.2 <:+ cs := by
  rw [Number.exponentPart?.eq_def] at h
  split at h
  · rename_i c cs
    split_ifs at h
    dsimp only at h
    split at h
    · cases h
    · rename_i heq
      cases h
      refine List.IsSuffix.trans ⟨_, span_eq heq⟩ (List.IsSuffix.trans ?_ (List.suffix_cons c cs))
      split
      · exact List.suffix_cons ..
      · exact List.suffix_cons ..
      · exact List.suffix_rfl
  · cases h

lemma exponentText_append (cs : List Char) :
    exponentText cs ++ ((Number.exponentPart? cs).getD (0, cs)).2 = cs := by
  rw [exponentText]
  cases h : Number.exponentPart? cs with
  | none => rfl
  | some r =>
    obtain ⟨text, rfl⟩ := exponentPart?_eq_some h
    simp

lemma number?_eq_some {cs : List Char} {s : Scanned} (h : number? cs = some s) :
    s.text ++ s.rest = cs := by
  rw [number?] at h
  split at h
  · cases h
  · rename_i whole rest _ hwhole
    split at h
    rename_i fraction rest' hfraction
    let point : List Char := if fraction.isEmpty then [] else ['.']
    have hpoint : point ++ fraction ++ rest' = rest := by
      split at hfraction
      · split at hfraction
        · cases hfraction
          rfl
        · rename_i more _ hne
          rw [← span_eq hfraction]
          have hfull : fraction ≠ [] := fun he => hne rest' (by rw [hfraction, he])
          simp [point, hfull]
      · cases hfraction
        rfl
    have hexponent := exponentText_append rest'
    cases h
    simp only [← span_eq hwhole, ← hpoint, List.append_assoc]
    exact congrArg (fun ds => whole ++ (point ++ (fraction ++ ds))) hexponent

lemma stringBody?_eq_some {quote : Char} {cs : List Char} {r : List Char × List Char × List Char}
    (h : stringBody? quote cs = some r) : r.2.1 ++ r.2.2 = cs := by
  fun_induction stringBody? quote cs generalizing r with
  | case1 => cases h
  | case2 cs => cases h; rfl
  | case3 => cases h
  | case4 e cs _ ih =>
    obtain ⟨q, hq, rfl⟩ := Option.map_eq_some_iff.1 h
    exact congrArg ('\\' :: e :: ·) (ih hq)
  | case5 c cs _ _ ih =>
    obtain ⟨q, hq, rfl⟩ := Option.map_eq_some_iff.1 h
    exact congrArg (c :: ·) (ih hq)

lemma string?_eq_some {cs : List Char} {s : Scanned} (h : string? cs = some s) :
    s.text ++ s.rest = cs := by
  rw [string?.eq_def] at h
  split at h
  · cases h
  · split_ifs at h
    obtain ⟨r, hr, rfl⟩ := Option.map_eq_some_iff.1 h
    exact congrArg (_ :: ·) (stringBody?_eq_some hr)

lemma name?_eq_some {cs : List Char} {r : List Char × List Char} (h : name? cs = some r) :
    r.1 ++ r.2 = cs := by
  rw [name?] at h
  split at h
  · cases h
  · split_ifs at h
    cases h
    rename_i heq _
    exact span_eq heq

lemma digits?_eq_some {cs : List Char} {r : List Char × List Char} (h : digits? cs = some r) :
    r.1 ++ r.2 = cs := by
  rw [digits?] at h
  split at h
  · cases h
  · cases h
    exact span_append Number.isDigit cs

lemma parameter?_eq_some {cs : List Char} {s : Scanned} (h : parameter? cs = some s) :
    s.text ++ s.rest = cs := by
  rw [parameter?.eq_def] at h
  split at h
  · obtain ⟨r, hr, rfl⟩ := Option.map_eq_some_iff.1 h
    refine congrArg ('$' :: ·) ?_
    rcases (Option.orElse_eq_some ..).1 hr with hr | ⟨-, hr⟩
    · exact name?_eq_some hr
    · exact digits?_eq_some hr
  · cases h

lemma quoted?_eq_some {cs : List Char} {s : Scanned} (h : quoted? cs = some s) :
    s.text ++ s.rest = cs := by
  rw [quoted?.eq_def] at h
  split at h
  · split at h
    · rename_i heq
      cases h
      rw [← span_eq heq]
      simp
    · cases h
  · cases h

lemma word?_eq_some {cs : List Char} {s : Scanned} (h : word? cs = some s) :
    s.text ++ s.rest = cs := by
  obtain ⟨r, hr, rfl⟩ := Option.map_eq_some_iff.1 h
  exact name?_eq_some hr

lemma symbol?_eq_some {cs : List Char} {s : Scanned} (h : symbol? cs = some s) :
    s.text ++ s.rest = cs := by
  obtain ⟨r, hr, rfl⟩ := Option.map_eq_some_iff.1 h
  have hpre := List.find?_some hr
  obtain ⟨ds, rfl⟩ := List.isPrefixOf_iff_prefix.1 hpre
  simp

/-- **The text of a token and what follows it are the text it was read from.** -/
theorem scan?_eq_some {cs : List Char} {s : Scanned} (h : scan? cs = some s) :
    s.text ++ s.rest = cs := by
  simp only [scan?, Option.orElse_eq_some] at h
  rcases h with h | ⟨-, h | ⟨-, h | ⟨-, h | ⟨-, h | ⟨-, h⟩⟩⟩⟩⟩
  · exact number?_eq_some h
  · exact string?_eq_some h
  · exact parameter?_eq_some h
  · exact quoted?_eq_some h
  · exact word?_eq_some h
  · exact symbol?_eq_some h

end Cypher

end PropertyGraph
