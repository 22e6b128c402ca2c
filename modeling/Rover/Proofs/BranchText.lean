import Rover.Instruction.Reader

/-!
Branches as text.  A line is written from its words and read again; what the
reader takes from it is known for every line, whatever its words are made of.
It is the line itself, unless the comparison is shadowed by a shorter one that
is tried first.
-/

namespace Rover

namespace Text

structure IsWord (cs : List Char) : Prop where
  ne_nil : cs ≠ []
  visible : ∀ c ∈ cs, isVisible c = true

instance (cs : List Char) : Decidable (IsWord cs) :=
  decidable_of_iff (cs ≠ [] ∧ cs.all isVisible = true)
    ⟨fun h => ⟨h.1, List.all_eq_true.1 h.2⟩,
      fun h => ⟨h.ne_nil, List.all_eq_true.2 h.visible⟩⟩

def AllBlank (cs : List Char) : Prop :=
  ∀ c ∈ cs, isBlank c = true

instance (cs : List Char) : Decidable (AllBlank cs) :=
  decidable_of_iff (cs.all isBlank = true) List.all_eq_true

/-- A text before which a word ends: it is empty or begins with a blank. -/
def EndsWord (cs : List Char) : Prop :=
  ∀ c ∈ cs.head?, isBlank c = true

instance (cs : List Char) : Decidable (EndsWord cs) :=
  decidable_of_iff (cs.head?.all isBlank = true) (Option.all_eq_true ..)

section Words

variable {w word u rest : List Char}

theorem takeWhile_append_stop {p : Char → Bool} (hw : ∀ c ∈ w, p c = true)
    (hrest : ∀ c ∈ rest.head?, p c = false) : (w ++ rest).takeWhile p = w := by
  rw [List.takeWhile_append_of_pos hw]
  cases rest with
  | nil => simp
  | cons c rest => simp [hrest c rfl]

theorem dropWhile_append_stop {p : Char → Bool} (hw : ∀ c ∈ w, p c = true)
    (hrest : ∀ c ∈ rest.head?, p c = false) :
    (w ++ rest).dropWhile p = rest := by
  rw [List.dropWhile_append_of_pos hw]
  cases rest with
  | nil => rfl
  | cons c rest => simp [hrest c rfl]

theorem EndsWord.invisible (h : EndsWord rest) :
    ∀ c ∈ rest.head?, isVisible c = false := by
  intro c hc
  simp [isVisible, h c hc]

private theorem word?_append (hw : IsWord w) (hrest : EndsWord rest) :
    word? (w ++ rest) = some (w, rest) := by
  rw [word?, takeWhile_append_stop hw.visible hrest.invisible,
    dropWhile_append_stop hw.visible hrest.invisible]
  cases w with
  | nil => exact absurd rfl hw.ne_nil
  | cons c w => rfl

theorem skipBlanks_word (hw : IsWord w) :
    skipBlanks (w ++ rest) = w ++ rest := by
  cases w with
  | nil => exact absurd rfl hw.ne_nil
  | cons c w =>
    have hc : isBlank c = false := by
      simpa [isVisible] using hw.visible c (List.mem_cons_self ..)
    simp [skipBlanks, hc]

theorem skipBlanks_append (hu : AllBlank u) :
    skipBlanks (u ++ rest) = skipBlanks rest :=
  List.dropWhile_append_of_pos hu

theorem blanks?_append (hu : AllBlank u) (hne : u ≠ []) :
    blanks? (u ++ rest) = some (skipBlanks rest) := by
  cases u with
  | nil => exact absurd rfl hne
  | cons c u =>
    have hrest : skipBlanks (u ++ rest) = skipBlanks rest :=
      skipBlanks_append fun c hc => hu c (List.mem_cons_of_mem _ hc)
    simp [blanks?, hu c (List.mem_cons_self ..), hrest]

private theorem endsWord_append (hu : AllBlank u) (hne : u ≠ []) :
    EndsWord (u ++ rest) := by
  cases u with
  | nil => exact absurd rfl hne
  | cons c u =>
    rintro _ ⟨⟩
    exact hu c (List.mem_cons_self ..)

private theorem keyword?_bind_blanks? (hw : ∀ c ∈ w, isVisible c = true)
    (hword : ∀ c ∈ word, isVisible c = true) (hrest : EndsWord rest) :
    (keyword? word (w ++ rest)).bind blanks? = if w = word then blanks? rest
      else none := by
  induction word generalizing w with
  | nil =>
    cases w with
    | nil => rfl
    | cons c w =>
      have hc : isBlank c = false := by
        simpa [isVisible] using hw c (List.mem_cons_self ..)
      simp [keyword?, blanks?, hc]
  | cons a word ih =>
    have hword' := fun c hc => hword c (List.mem_cons_of_mem a hc)
    cases w with
    | nil =>
      cases rest with
      | nil => rfl
      | cons c rest =>
        have hne : a ≠ c := by
          rintro rfl
          have ha := hword a (List.mem_cons_self ..)
          have hblank : isBlank a = true := hrest a rfl
          simp [isVisible, hblank] at ha
        simp [keyword?, hne]
    | cons c w =>
      have hih := ih (w := w)
        (fun c hc => hw c (List.mem_cons_of_mem _ hc)) hword'
      by_cases hac : a = c
      · subst hac
        simpa [keyword?] using hih
      · simp [keyword?, hac, Ne.symm hac]

end Words

end Text

open Text

/-- The comparison whose symbol begins this one's and is tried before it. -/
def Comparison.shadow? : Comparison → Option Comparison
  | .greaterEqual => some .greater
  | .lessEqual => some .less
  | _ => none

theorem Comparison.ofSymbol?_symbol (c : Comparison) :
    ofSymbol? c.symbol = some c := by
  cases c <;> decide

theorem Comparison.isWord_symbol (c : Comparison) : IsWord c.symbol.toList := by
  cases c <;> decide

def clause? (key cs : List Char) : Option (List Char × List Char) := do
  let cs ← blanks? cs
  let cs ← keyword? key cs
  let cs ← blanks? cs
  word? cs

def thenElseText (yes no rest : List Char) : List Char :=
  [' '] ++ ("then".toList ++ ([' '] ++ (yes ++
    ([' '] ++ ("else".toList ++ ([' '] ++ (no ++ rest)))))))

section Sides

variable {left right yes no rest u v : List Char} {comparison : Comparison}

private theorem isWord_then : IsWord "then".toList := by decide

private theorem isWord_else : IsWord "else".toList := by decide

theorem allBlank_space : AllBlank [' '] := by decide

theorem thenElse?_eq (cs : List Char) : thenElse? cs = (do
    let (yes, cs) ← clause? "then".toList cs
    let (no, _) ← clause? "else".toList cs
    return (yes, no)) := by
  simp only [thenElse?, clause?, bind_assoc]

private theorem clause?_append {key w : List Char} (hu : AllBlank u)
    (hune : u ≠ []) (hw : IsWord w) (hkey : IsWord key) (hyes : IsWord yes)
    (hrest : EndsWord rest) :
    clause? key (u ++ (w ++ ([' '] ++ (yes ++ rest)))) =
      if w = key then some (yes, rest) else none := by
  have hspace : EndsWord ([' '] ++ (yes ++ rest)) :=
    endsWord_append allBlank_space nofun
  have hkeyword := keyword?_bind_blanks? hw.visible hkey.visible hspace
  rw [blanks?_append allBlank_space nofun, skipBlanks_word hyes] at hkeyword
  calc clause? key (u ++ (w ++ ([' '] ++ (yes ++ rest))))
    _ = ((keyword? key (w ++ ([' '] ++ (yes ++ rest)))).bind blanks?).bind
      word? := by
      simp only [clause?, blanks?_append hu hune, skipBlanks_word hw,
        Option.bind_eq_bind, Option.bind_some, Option.bind_assoc]
    _ = if w = key then some (yes, rest) else none := by
      rw [hkeyword]
      split
      · rw [Option.bind_some, word?_append hyes hrest]
      · rfl

private theorem thenElse?_thenElseText (hyes : IsWord yes) (hno : IsWord no)
    (hrest : EndsWord rest) :
    thenElse? (thenElseText yes no rest) = some (yes, no) := by
  have hspace : ∀ cs, EndsWord ([' '] ++ cs) :=
    fun cs => endsWord_append allBlank_space nofun
  rw [thenElse?_eq, thenElseText, clause?_append allBlank_space nofun
    isWord_then isWord_then hyes (hspace _), if_pos rfl]
  change (clause? "else".toList _).bind _ = _
  rw [clause?_append allBlank_space nofun
    isWord_else isWord_else hno hrest, if_pos rfl]
  rfl

/-- One word too many before `then`: it has to be `then` itself, and the word
behind it `else`. -/
private theorem thenElse?_word (hv : AllBlank v) (hvne : v ≠ [])
    (hright : IsWord right) (hyes : IsWord yes) :
    thenElse? (v ++ (right ++ thenElseText yes no rest)) =
      if right = "then".toList ∧ yes = "else".toList then some (right, yes)
        else none := by
  have hspace : ∀ cs, EndsWord ([' '] ++ cs) :=
    fun cs => endsWord_append allBlank_space nofun
  rw [thenElse?_eq, thenElseText,
    clause?_append hv hvne hright isWord_then isWord_then (hspace _)]
  by_cases hthen : right = "then".toList
  · rw [if_pos hthen]
    change (clause? "else".toList _).bind _ = _
    rw [clause?_append allBlank_space nofun
      hyes isWord_else isWord_else (hspace _)]
    by_cases helse : yes = "else".toList
    · rw [if_pos helse, if_pos ⟨hthen, helse⟩, hthen, helse]
      rfl
    · rw [if_neg helse, if_neg fun h => helse h.2]
      rfl
  · rw [if_neg hthen, if_neg fun h => hthen h.1]
    rfl

def afterComparison? (left : List Char) (comparison : Comparison)
    (cs : List Char) :
    Option BranchLine :=
  (rightOperands (skipBlanks cs)).findSome? fun (right, cs) => do
    let (yes, no) ← thenElse? cs
    return { left, comparison, right, yes, no }

theorem afterLeft?_eq (left cs : List Char) :
    afterLeft? left cs =
    Comparison.all.findSome? fun comparison =>
      (keyword? comparison.symbol.toList cs).bind
        (afterComparison? left comparison) := rfl

private theorem afterComparison?_append (hv : AllBlank v)
    (hright : IsWord right) (hyes : IsWord yes) (hno : IsWord no)
    (hrest : EndsWord rest) :
    afterComparison? left comparison
      (v ++ (right ++ thenElseText yes no rest)) =
      some ⟨left, comparison, right, yes, no⟩ := by
  have hends : EndsWord (thenElseText yes no rest) :=
    endsWord_append allBlank_space nofun
  rw [afterComparison?, skipBlanks_append hv, skipBlanks_word hright,
    rightOperands, word?_append hright hends]
  simp [thenElse?_thenElseText hyes hno hrest]

/-- The sign of equality alone is no operand, as a rule. -/
private theorem afterComparison?_equals (hv : AllBlank v) (hvne : v ≠ [])
    (hright : IsWord right) (hyes : IsWord yes) :
    afterComparison? left comparison
      ('=' :: (v ++ (right ++ thenElseText yes no rest))) =
      if right = "then".toList ∧ yes = "else".toList then
        some ⟨left, comparison, ['='], right, yes⟩
      else none := by
  have hequals : IsWord ['='] := by decide
  have hword : word? ('=' :: (v ++ (right ++ thenElseText yes no rest))) =
      some (['='], v ++ (right ++ thenElseText yes no rest)) :=
    word?_append hequals (endsWord_append hv hvne)
  have hskip : skipBlanks ('=' :: (v ++ (right ++ thenElseText yes no rest))) =
      '=' :: (v ++ (right ++ thenElseText yes no rest)) :=
    skipBlanks_word hequals
  have hoperands : rightOperands
      ('=' :: (v ++ (right ++ thenElseText yes no rest))) =
      [(['='], v ++ (right ++ thenElseText yes no rest))] := by
    simp [rightOperands, hword, enclosed?, apostrophe, doubleQuote]
  rw [afterComparison?, hskip, hoperands, List.findSome?_cons]
  dsimp only
  rw [thenElse?_word hv hvne hright hyes]
  by_cases hthen : right = "then".toList ∧ yes = "else".toList
  · rw [if_pos hthen, if_pos hthen]
    rfl
  · rw [if_neg hthen, if_neg hthen]
    rfl

private theorem afterLeft?_symbol {line : BranchLine} {cs : List Char}
    (h : afterComparison? left comparison cs = some line) :
    afterLeft? left (comparison.symbol.toList ++ cs) =
      (comparison.shadow?.bind
          fun shadow => afterComparison? left shadow ('=' :: cs)).or
        (some line) := by
  cases comparison with
  | greaterEqual =>
    cases hshadow : afterComparison? left .greater ('=' :: cs) <;>
      simp [afterLeft?_eq, Comparison.all, Comparison.symbol, keyword?,
        Comparison.shadow?, h, hshadow]
  | lessEqual =>
    cases hshadow : afterComparison? left .less ('=' :: cs) <;>
      simp [afterLeft?_eq, Comparison.all, Comparison.symbol, keyword?,
        Comparison.shadow?, h, hshadow]
  | _ =>
    simp [afterLeft?_eq, Comparison.all, Comparison.symbol, keyword?,
      Comparison.shadow?, h]

private theorem branchLine?_if {left cs : List Char} (hleft : IsWord left) :
    branchLine? ("if".toList ++ ([' '] ++ (left ++ cs))) =
      (leftEnds (left ++ cs)).findSome?
        fun e => afterLeft? ((left ++ cs).take e.1) e.2 := by
  have hif : IsWord "if".toList := by decide
  have hkey : keyword? "if".toList ("if".toList ++ ([' '] ++ (left ++ cs))) =
      some ([' '] ++ (left ++ cs)) := keyword?_eq_some_iff.2 rfl
  rw [branchLine?, skipBlanks_word hif, hkey,
    Option.bind_eq_bind, Option.bind_some, blanks?_append allBlank_space nofun,
    skipBlanks_word hleft]
  rfl

private theorem leftEnds_append {word after : List Char} (hword : IsWord word)
    (hafter : EndsWord after) :
    leftEnds (word ++ after) =
      (word.length, skipBlanks after) ::
        (List.range (word.length - 1)).reverse.map
        fun k => (k + 1, (word ++ after).drop (k + 1)) := by
  obtain ⟨n, hn⟩ : ∃ n, word.length = n + 1 :=
    Nat.exists_eq_succ_of_ne_zero (by simpa using hword.ne_nil)
  rw [leftEnds, takeWhile_append_stop hword.visible hafter.invisible, hn]
  dsimp only
  rw [← hn, List.drop_left, hn, Nat.add_sub_cancel]

end Sides

def Text.isSign (c : Char) : Bool :=
  c ∈ ['=', '!', '<', '>']

/-- A text at whose beginning no comparison can be read. -/
def BeginsPlain (cs : List Char) : Prop :=
  ∀ c ∈ cs.head?, isSign c = false

section Signs

variable {left plain after cs : List Char} {comparison : Comparison}

private theorem isSign_of_isBlank {c : Char} (h : isBlank c = true) :
    isSign c = false := by
  rw [isSign, decide_eq_false_iff_not]
  intro hc
  simp only [List.mem_cons, List.not_mem_nil, or_false] at hc
  rcases hc with rfl | rfl | rfl | rfl <;> cases h

private theorem afterLeft?_plain (h : BeginsPlain cs) :
    afterLeft? left cs = none ∧ afterLeft? left ('=' :: cs) = none := by
  cases cs with
  | nil => exact ⟨rfl, rfl⟩
  | cons c cs =>
    have hc : isSign c = false := h c rfl
    simp only [isSign, List.mem_cons, List.not_mem_nil, or_false,
      decide_eq_false_iff_not, not_or] at hc
    obtain ⟨hequal, hbang, hless, hgreater⟩ := hc
    have hne : ∀ d, c ≠ d → d ≠ c := fun _ h => h.symm
    simp [afterLeft?_eq, Comparison.all, Comparison.symbol, keyword?,
      hne _ hequal, hne _ hbang, hne _ hless, hne _ hgreater]

private theorem beginsPlain_drop (hplain : ∀ c ∈ plain, isSign c = false)
    (hafter : EndsWord after) {i : Nat} (hi : i ≤ plain.length) :
    BeginsPlain ((plain ++ after).drop i) := by
  rw [List.drop_append_of_le_length hi]
  intro c hc
  cases hdrop : plain.drop i with
  | nil =>
    rw [hdrop] at hc
    exact isSign_of_isBlank (hafter c hc)
  | cons d ds =>
    rw [hdrop] at hc
    obtain rfl : d = c := by simpa using hc
    exact hplain d (List.mem_of_mem_drop (hdrop ▸ List.mem_cons_self ..))

private theorem afterLeft?_drop_symbol (hplain : ∀ c ∈ plain, isSign c = false)
    (hafter : EndsWord after) {i : Nat} (hpos : 0 < i)
    (hi : i ≤ (comparison.symbol.toList ++ plain).length) :
    afterLeft? left
      ((comparison.symbol.toList ++ (plain ++ after)).drop i) = none := by
  have hrest : ∀ j ≤ plain.length, BeginsPlain ((plain ++ after).drop j) :=
    fun j hj => beginsPlain_drop hplain hafter hj
  rw [List.length_append] at hi
  have hlong : ∀ a, comparison.symbol.toList = [a, '='] → afterLeft? left
      ((comparison.symbol.toList ++ (plain ++ after)).drop i) = none := by
    intro a hsymbol
    rw [hsymbol] at hi ⊢
    match i, hpos with
    | 1, _ => exact (afterLeft?_plain (hrest 0 (Nat.zero_le _))).2
    | j + 2, _ =>
      exact (afterLeft?_plain (hrest j (by simpa [Nat.add_comm] using hi))).1
  have hshort : ∀ a, comparison.symbol.toList = [a] → afterLeft? left
      ((comparison.symbol.toList ++ (plain ++ after)).drop i) = none := by
    intro a hsymbol
    rw [hsymbol] at hi ⊢
    match i, hpos with
    | j + 1, _ =>
      exact (afterLeft?_plain (hrest j (by simpa [Nat.add_comm] using hi))).1
  cases comparison with
  | equal => exact hlong _ rfl
  | notEqual => exact hlong _ rfl
  | greater => exact hshort _ rfl
  | less => exact hshort _ rfl
  | greaterEqual => exact hlong _ rfl
  | lessEqual => exact hlong _ rfl

private theorem findSome?_reverse_range {α : Type}
    {f : Nat → Option α} {a : α} {j n : Nat} (hj : j < n) (hf : f j = some a)
    (hnone : ∀ k, j < k → k < n → f k = none) :
    (List.range n).reverse.findSome? f = some a := by
  induction n with
  | zero => cases hj
  | succ n ih =>
    rw [List.range_succ, List.reverse_append, List.reverse_singleton,
      List.singleton_append, List.findSome?_cons]
    rcases Nat.lt_succ_iff_lt_or_eq.1 hj with hlt | rfl
    · rw [hnone n hlt (Nat.lt_succ_self n)]
      exact ih hlt fun k hjk hkn => hnone k hjk (Nat.lt_succ_of_lt hkn)
    · rw [hf]

/-- Without a blank before the comparison, the left operand ends where the
comparison begins. -/
private theorem branchLine?_joined {line : BranchLine} (hleft : IsWord left)
    (hplain : ∀ c ∈ plain, isVisible c = true ∧ isSign c = false)
    (hafter : EndsWord after) (hnext : BeginsPlain (skipBlanks after))
    (h : afterLeft? left
      (comparison.symbol.toList ++ (plain ++ after)) = some line) :
    branchLine? ("if".toList ++ ([' '] ++
      (left ++ (comparison.symbol.toList ++ (plain ++ after))))) =
        some line := by
  have hword : IsWord (left ++ (comparison.symbol.toList ++ plain)) := by
    refine ⟨by simp [hleft.ne_nil], fun c hc => ?_⟩
    rcases List.mem_append.1 hc with hc | hc
    · exact hleft.visible c hc
    · rcases List.mem_append.1 hc with hc | hc
      · exact comparison.isWord_symbol.visible c hc
      · exact (hplain c hc).1
  have hlength := List.length_pos_iff.2 hleft.ne_nil
  have hsymbol := List.length_pos_iff.2 comparison.isWord_symbol.ne_nil
  have hends := leftEnds_append hword hafter
  simp only [List.append_assoc] at hends
  rw [branchLine?_if hleft, hends, List.findSome?_cons, List.findSome?_map]
  dsimp only
  rw [(afterLeft?_plain hnext).1]
  -- No end beyond the left operand fits, so the search comes down to it.
  apply findSome?_reverse_range (j := left.length - 1)
  · simp only [List.length_append]
    omega
  · rw [Function.comp_apply, Nat.sub_add_cancel hlength, List.drop_left,
      List.take_left]
    exact h
  · intro k hlt hbound
    have hdrop : (left ++ (comparison.symbol.toList ++ (plain ++ after))).drop
        (k + 1) = (comparison.symbol.toList ++ (plain ++ after)).drop
        (k + 1 - left.length) := by
      rw [List.drop_append, List.drop_eq_nil_of_le (by omega), List.nil_append]
    rw [Function.comp_apply, hdrop]
    apply afterLeft?_drop_symbol (fun c hc => (hplain c hc).2) hafter
    · omega
    · simp only [List.length_append] at hbound ⊢
      omega

end Signs

namespace BranchLine

structure IsWorded (line : BranchLine) : Prop where
  left : IsWord line.left
  right : IsWord line.right
  yes : IsWord line.yes
  no : IsWord line.no

/-- What follows the left operand and the blanks behind it, with `v` after the
comparison. -/
def tail (line : BranchLine) (v rest : List Char) : List Char :=
  line.comparison.symbol.toList ++
    (v ++ (line.right ++ thenElseText line.yes line.no rest))

def write (line : BranchLine) (u v rest : List Char) : List Char :=
  "if".toList ++ ([' '] ++ (line.left ++ (u ++ line.tail v rest)))

/-- What a reader takes from a line with `v` after its comparison.  A comparison
that is shadowed loses its second sign to the right operand next to it; the sign
stands for the operand if the words behind it can be read as a branch all the
same. -/
def taken (line : BranchLine) (v : List Char) : BranchLine :=
  match line.comparison.shadow? with
  | none => line
  | some shadow =>
    if v = [] then
      { line with comparison := shadow, right := '=' :: line.right }
    else if line.right = "then".toList ∧ line.yes = "else".toList then
      { line with
        comparison := shadow, right := ['='], yes := line.right,
        no := line.yes }
    else line

variable {line : BranchLine} {u v rest : List Char}

theorem afterLeft?_tail (hline : line.IsWorded) (hv : AllBlank v)
    (hrest : EndsWord rest) :
    afterLeft? line.left (line.tail v rest) = some (line.taken v) := by
  rw [tail, afterLeft?_symbol
    (afterComparison?_append hv hline.right hline.yes hline.no hrest), taken]
  cases line.comparison.shadow? with
  | none => rfl
  | some shadow =>
    have hequals : IsWord ('=' :: line.right) := by
      refine ⟨nofun, fun c hc => ?_⟩
      rcases List.mem_cons.1 hc with rfl | hc
      · decide
      · exact hline.right.visible c hc
    rw [Option.bind_some]
    dsimp only
    by_cases hvne : v = []
    · subst hvne
      have htight : afterComparison? line.left shadow
          ('=' :: (line.right ++ thenElseText line.yes line.no rest)) =
          some ⟨line.left, shadow, '=' :: line.right, line.yes, line.no⟩ :=
        afterComparison?_append hv hequals hline.yes hline.no hrest
      rw [if_pos rfl, List.nil_append, htight]
      rfl
    · rw [if_neg hvne, afterComparison?_equals hv hvne hline.right hline.yes]
      split
      · rfl
      · rfl

theorem branchLine?_spaced (hline : line.IsWorded) (hu : AllBlank u)
    (hune : u ≠ []) (hv : AllBlank v) (hrest : EndsWord rest) :
    branchLine? (line.write u v rest) = some (line.taken v) := by
  have hends : EndsWord (u ++ line.tail v rest) := endsWord_append hu hune
  have hskip : skipBlanks (u ++ line.tail v rest) = line.tail v rest := by
    rw [skipBlanks_append hu, tail,
      skipBlanks_word line.comparison.isWord_symbol]
  rw [write, branchLine?_if hline.left, leftEnds_append hline.left hends,
    List.findSome?_cons]
  dsimp only
  rw [List.take_left, hskip, afterLeft?_tail hline hv hrest]

theorem branchLine?_tight (hline : line.IsWorded)
    (hright : ∀ c ∈ line.right, isSign c = false) (hv : AllBlank v)
    (hrest : EndsWord rest) :
    branchLine? (line.write [] v rest) = some (line.taken v) := by
  have hafter := afterLeft?_tail hline hv hrest
  rw [write, List.nil_append]
  rw [tail] at hafter ⊢
  by_cases hvne : v = []
  · subst hvne
    rw [List.nil_append] at hafter ⊢
    refine branchLine?_joined hline.left ?_
      (endsWord_append allBlank_space nofun) ?_ hafter
    · exact fun c hc => ⟨hline.right.visible c hc, hright c hc⟩
    · rw [thenElseText, skipBlanks_append allBlank_space,
        skipBlanks_word isWord_then]
      rintro _ ⟨⟩
      rfl
  · have hnext : BeginsPlain (skipBlanks (v ++ (line.right ++
        thenElseText line.yes line.no rest))) := by
      rw [skipBlanks_append hv, skipBlanks_word hline.right]
      exact beginsPlain_drop hright (endsWord_append allBlank_space nofun)
        (Nat.zero_le _)
    have hplain : ∀ c ∈ ([] : List Char), isVisible c = true ∧
        isSign c = false := nofun
    exact (branchLine?_joined hline.left hplain
        (endsWord_append hv hvne) hnext hafter :)

theorem branchLine?_write (hline : line.IsWorded) (hu : AllBlank u)
    (hjoined : u = [] → ∀ c ∈ line.right, isSign c = false) (hv : AllBlank v)
    (hrest : EndsWord rest) :
    branchLine? (line.write u v rest) = some (line.taken v) := by
  by_cases hune : u = []
  · rw [hune]
    exact branchLine?_tight hline (hjoined hune) hv hrest
  · exact branchLine?_spaced hline hu hune hv hrest

theorem taken_of_clear (hv : v ≠ []) (hclear : line.comparison.shadow? ≠ none →
      ¬(line.right = "then".toList ∧ line.yes = "else".toList)) :
    line.taken v = line := by
  rw [taken]
  cases hshadow : line.comparison.shadow? with
  | none => rfl
  | some shadow =>
    dsimp only
    rw [if_neg hv, if_neg (hclear (by simp [hshadow]))]

theorem taken_congr {v' : List Char}
    (h : line.comparison.shadow? = none ∨ v ≠ [] ∧ v' ≠ []) :
    line.taken v = line.taken v' := by
  rw [taken, taken]
  cases hshadow : line.comparison.shadow? with
  | none => rfl
  | some shadow =>
    have hne : v ≠ [] ∧ v' ≠ [] := h.resolve_left (by simp [hshadow])
    dsimp only
    rw [if_neg hne.1, if_neg hne.2]

theorem taken_nil_right {shadow : Comparison}
    (h : line.comparison.shadow? = some shadow) :
    line.taken [] =
      { line with comparison := shadow, right := '=' :: line.right } := by
  rw [taken, h]
  rfl

theorem taken_nil_ne {shadow : Comparison}
    (h : line.comparison.shadow? = some shadow) (hright : line.right ≠ [])
    (hv : v ≠ []) : line.taken [] ≠ line.taken v := by
  rw [taken_nil_right h, taken, h]
  dsimp only
  rw [if_neg hv]
  intro heq
  have hoperand := congrArg BranchLine.right heq
  split at hoperand
  · exact hright (List.cons.inj hoperand).2
  · exact List.cons_ne_self _ _ hoperand

end BranchLine

def branchText (left before : String) (comparison : Comparison)
    (after right yes no rest : String) :
    String :=
  "if " ++ left ++ before ++ comparison.symbol ++ after ++ right ++ " then " ++
    yes ++ " else " ++
    no ++ rest

section Texts

variable {left right yes no before after rest : String}
  {comparison : Comparison}

theorem toList_branchText :
    (branchText left before comparison after right yes no rest).toList =
    BranchLine.write ⟨left.toList, comparison, right.toList, yes.toList,
      no.toList⟩ before.toList
      after.toList rest.toList := by
  delta branchText
  simp [BranchLine.write, BranchLine.tail, thenElseText]

theorem Instruction.ofBranchParts_eq {text : String}
    (h : branchLine? text.toList =
      some ⟨left.toList, comparison, right.toList, yes.toList, no.toList⟩) :
    ofBranchParts ["if", left, comparison.symbol, right, "then",
      yes, "else", no] =
      .ok (parse text) := by
  rw [ofBranchParts, comparison.ofSymbol?_symbol, parse, ofChars_eq, h]

end Texts

/-- A branch with single spaces is read as it was written, whatever its words
are and whatever follows it.  The exception is a right operand `then` before a
`then`-part `else`, which lets a comparison of two signs fall apart. -/
theorem spaced_branch_reads_back (left right yes no rest : String)
    (comparison : Comparison) (hleft : IsWord left.toList)
    (hright : IsWord right.toList) (hyes : IsWord yes.toList)
    (hno : IsWord no.toList) (hrest : EndsWord rest.toList)
    (hclear : ¬((comparison = .greaterEqual ∨ comparison = .lessEqual) ∧
      right = "then" ∧ yes = "else")) :
    branchLine? (branchText left " " comparison " " right yes no rest).toList =
        some ⟨left.toList, comparison, right.toList, yes.toList, no.toList⟩ ∧
      Instruction.ofBranchParts ["if", left, comparison.symbol, right, "then",
        yes, "else", no] =
        .ok (Instruction.parse
            (branchText left " " comparison " " right yes no rest)) := by
  have hread : branchLine?
      (branchText left " " comparison " " right yes no rest).toList =
      some ⟨left.toList, comparison, right.toList, yes.toList, no.toList⟩ := by
    have hspace : AllBlank " ".toList := by decide
    rw [toList_branchText, BranchLine.branchLine?_write
      ⟨hleft, hright, hyes, hno⟩ hspace (fun h => by cases h) hspace hrest,
      BranchLine.taken_of_clear (by decide)]
    rintro hshadow ⟨hthen, helse⟩
    refine hclear ⟨?_, String.toList_inj.1 hthen, String.toList_inj.1 helse⟩
    cases comparison <;> simp [Comparison.shadow?] at hshadow ⊢
  exact ⟨hread, Instruction.ofBranchParts_eq hread⟩

theorem spaced_branch_reads_back_among_keywords :
    branchLine? "if if>= >= then then then else else\tthen x else y".toList =
      some ⟨"if>=".toList, .greaterEqual, "then".toList, "then".toList,
        "else".toList⟩ ∧
    Instruction.ofBranchParts ["if", "if>=", ">=", "then", "then", "then",
      "else", "else"] =
      .ok (Instruction.parse
          "if if>= >= then then then else else\tthen x else y") :=
  spaced_branch_reads_back "if>=" "then" "then" "else" "\tthen x else y"
    .greaterEqual (by decide)
    (by decide) (by decide) (by decide) (by decide) (by decide)

/-- Blanks around a comparison make no difference, if only there is one behind
it or no other comparison begins like it.  Joined to its right operand, however,
`>=` or `<=` is read as `>` or `<`, with the sign of equality in front of the
operand. -/
theorem only_shadowed_comparisons_need_a_space
    (left right yes no before after : String)
    (comparison : Comparison) (hleft : IsWord left.toList)
    (hright : IsWord right.toList) (hyes : IsWord yes.toList)
    (hno : IsWord no.toList) (hplain : ∀ c ∈ right.toList, isSign c = false)
    (hbefore : AllBlank before.toList) (hafter : AllBlank after.toList) :
    (comparison.shadow? = none ∨ after ≠ "" →
      branchLine?
        (branchText left before comparison after right yes no "").toList =
        branchLine?
          (branchText left " " comparison " " right yes no "").toList) ∧
    ∀ shadow, comparison.shadow? = some shadow →
      branchLine?
        (branchText left before comparison "" right yes no "").toList =
          some ⟨left.toList, shadow, '=' :: right.toList,
            yes.toList, no.toList⟩ ∧
        branchLine?
          (branchText left before comparison "" right yes no "").toList ≠
          branchLine?
            (branchText left " " comparison " " right yes no "").toList := by
  have hread : ∀ u v : String, AllBlank u.toList → AllBlank v.toList →
      branchLine? (branchText left u comparison v right yes no "").toList =
      some (BranchLine.taken ⟨left.toList, comparison, right.toList, yes.toList,
        no.toList⟩ v.toList) := by
    intro u v hu hv
    rw [toList_branchText]
    exact BranchLine.branchLine?_write ⟨hleft, hright, hyes, hno⟩ hu
      (fun _ => hplain) hv (by decide)
  have hspaced := hread " " " " (by decide) (by decide)
  have htight := hread before "" hbefore (by decide)
  refine ⟨fun hfree => ?_, fun shadow hshadow => ?_⟩
  · rw [hread before after hbefore hafter, hspaced]
    refine congrArg some
      (BranchLine.taken_congr (hfree.imp_right fun hne => ⟨?_, by decide⟩))
    simpa using hne
  · rw [htight, hspaced]
    refine ⟨congrArg some (BranchLine.taken_nil_right hshadow), fun heq => ?_⟩
    exact BranchLine.taken_nil_ne hshadow hright.ne_nil (by decide)
      (Option.some.inj heq)

/-- One line in three spacings: the first two say what they mean, the third does
not. -/
theorem joined_threshold_is_misread :
    branchLine? "if BATTERY>= 50 then mve else obs".toList =
        branchLine? "if BATTERY >= 50 then mve else obs".toList ∧
      branchLine? "if BATTERY>=50 then mve else obs".toList =
        some ⟨"BATTERY".toList, .greater, "=50".toList, "mve".toList,
          "obs".toList⟩ ∧
      branchLine? "if BATTERY>=50 then mve else obs".toList ≠
        branchLine? "if BATTERY >= 50 then mve else obs".toList := by
  have hplain : ∀ c ∈ "50".toList, isSign c = false :=
    List.forall_mem_cons.2 ⟨rfl, List.forall_mem_singleton.2 rfl⟩
  obtain ⟨hsame, hmisread⟩ := only_shadowed_comparisons_need_a_space "BATTERY"
    "50" "mve" "obs" "" " " .greaterEqual (by decide) (by decide) (by decide)
    (by decide) hplain (by decide) (by decide)
  exact ⟨hsame (Or.inr (by decide)), hmisread .greater rfl⟩

end Rover
