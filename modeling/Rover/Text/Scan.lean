import Rover.Text.Blank
import Rover.Text.Quoted

namespace Rover.Text

def keyword? : (word : List Char) → List Char → Option (List Char)
  | [], cs => some cs
  | _ :: _, [] => none
  | a :: word, c :: cs => if a = c then keyword? word cs else none

def blanks? : List Char → Option (List Char)
  | [] => none
  | c :: cs => if isBlank c then some (skipBlanks cs) else none

def isVisible (c : Char) : Bool :=
  !isBlank c

def word? (cs : List Char) : Option (List Char × List Char) :=
  match cs.takeWhile isVisible with
  | [] => none
  | w => some (w, cs.dropWhile isVisible)

/-- Takes a text between two quotes, at least one character and the quotes with
it. -/
def enclosed? (quote : Char) : List Char → Option (List Char × List Char)
  | [] => none
  | c :: cs =>
    let inner := cs.takeWhile (· != quote)
    if c = quote ∧ inner ≠ [] then
      (cs.dropWhile (· != quote)).tail?.map
        fun rest => (quote :: inner ++ [quote], rest)
    else none

def splitCommas : List Char → List (List Char)
  | [] => [[]]
  | c :: cs =>
    if c = ',' then [] :: splitCommas cs
    else
      match splitCommas cs with
      | [] => [[c]]
      | w :: ws => (c :: w) :: ws

theorem keyword?_eq_some_iff {word cs rest : List Char} :
    keyword? word cs = some rest ↔ cs = word ++ rest := by
  induction word generalizing cs with
  | nil => simp [keyword?]
  | cons a word ih =>
    cases cs with
    | nil => simp [keyword?]
    | cons c cs =>
      by_cases h : a = c
      · simp [keyword?, h, ih]
      · simp [keyword?, h, Ne.symm h]

theorem length_keyword? {word cs rest : List Char}
    (h : keyword? word cs = some rest) :
    rest.length + word.length = cs.length := by
  rw [keyword?_eq_some_iff.1 h, List.length_append, Nat.add_comm]

theorem length_blanks? {cs rest : List Char} (h : blanks? cs = some rest) :
    rest.length < cs.length := by
  cases cs with
  | nil => simp [blanks?] at h
  | cons c cs =>
    simp only [blanks?, Option.ite_none_right_eq_some, Option.some.injEq] at h
    rw [← h.2]
    exact Nat.lt_succ_of_le (length_skipBlanks_le cs)

theorem length_word? {cs w rest : List Char} (h : word? cs = some (w, rest)) :
    w.length + rest.length = cs.length := by
  simp only [word?] at h
  split at h
  · simp at h
  · simp only [Option.some.injEq, Prod.mk.injEq] at h
    rw [← h.1, ← h.2, ← List.length_append, List.takeWhile_append_dropWhile]

theorem length_enclosed? {quote : Char} {cs w rest : List Char}
    (h : enclosed? quote cs = some (w, rest)) : rest.length ≤ cs.length := by
  cases cs with
  | nil => simp [enclosed?] at h
  | cons c cs =>
    simp only [enclosed?, Option.ite_none_right_eq_some, Option.map_eq_some_iff,
      Prod.mk.injEq] at h
    obtain ⟨_, after, htail, _, rfl⟩ := h
    have hdrop := length_dropWhile_le (· != quote) cs
    cases hcs : cs.dropWhile (· != quote) with
    | nil => simp [hcs] at htail
    | cons _ tail =>
      simp only [hcs, List.tail?_cons, Option.some.injEq, List.length_cons]
        at htail hdrop ⊢
      subst htail
      omega

theorem length_of_mem_splitCommas {cs item : List Char}
    (h : item ∈ splitCommas cs) :
    item.length ≤ cs.length := by
  induction cs generalizing item with
  | nil => simp_all [splitCommas]
  | cons c cs ih =>
    simp only [splitCommas] at h
    split at h
    · rcases List.mem_cons.1 h with rfl | h
      · simp
      · exact Nat.le_succ_of_le (ih h)
    · split at h
      · simp_all
      · next w ws hsplit =>
        rw [hsplit] at ih
        rcases List.mem_cons.1 h with rfl | h
        · simpa using ih (List.mem_cons_self ..)
        · exact Nat.le_succ_of_le (ih (List.mem_cons_of_mem _ h))

end Rover.Text
