import HistoricalFigures.Proofs.Loop
import HistoricalFigures.Proofs.Query.Searching
import HistoricalFigures.Proofs.Turtle.Pattern

/-!
**What stands between a parenthesis and the one that closes it.** Strings between double quotes are left
out; in what is left no parenthesis is closed that was not opened, and all are closed that were.

* `IsUnquoted`: a text without the strings in it.
* `IsBalanced`: a text whose parentheses are balanced.
* `passed_eq_of_isUnquoted`, `exists_isUnquoted`: strings are passed over.
* `passed_eq_some_iff`: the number of parentheses that are open.
* `balancedArgsFrom_cases`: the search takes everything, or it ends before a parenthesis.
* `ArgumentScan`: the same search by positions, a loop.
* `balancedArgs_spec`: the whole.
-/
namespace HistoricalFigures.Query

open Turtle (IsInner)

/-! ### Strings -/

/-- What stands between double quotes: other characters, and any behind a backslash. -/
def IsStringBody (body : List Char) : Prop := IsInner ['\x22'] (fun _ => true) body

/-- A text, and what is left of it without the strings between double quotes. -/
inductive IsUnquoted : List Char → List Char → Prop
  | nil : IsUnquoted [] []
  | char {c : Char} {text plain : List Char} (other : c ≠ '\x22') (later : IsUnquoted text plain) :
    IsUnquoted (c :: text) (c :: plain)
  | string {body text plain : List Char} (isBody : IsStringBody body) (later : IsUnquoted text plain) :
    IsUnquoted ('\x22' :: (body ++ '\x22' :: text)) plain

/-- The number of parentheses that are open behind a character that is no double quote. -/
def depthBehind (depth : Nat) (c : Char) : Nat :=
  if c = '(' then depth + 1 else if c = ')' then depth - 1 else depth

/-- A character that is no double quote closes the outermost parenthesis, or what follows it is outside too. -/
theorem step_outside {c : Char} (other : c ≠ '\x22') (depth : Nat) :
    ArgumentPlace.step .outside depth c =
      if c = ')' ∧ depth = 0 then none else some (.outside, depthBehind depth c) := by
  simp only [ArgumentPlace.step, if_neg other, depthBehind]
  by_cases opens : c = '('
  · have noClose : ¬ (c = ')' ∧ depth = 0) := fun closes => absurd (opens.symm.trans closes.1) (by decide)
    rw [if_pos opens, if_neg noClose, if_pos opens]
  by_cases closes : c = ')'
  · simp only [if_neg opens, if_pos closes]
    cases depth with
    | zero => exact (if_pos ⟨closes, rfl⟩).symm
    | succ inner => exact (if_neg fun both => Nat.succ_ne_zero inner both.2).symm
  · have noClose : ¬ (c = ')' ∧ depth = 0) := fun both => closes both.1
    rw [if_neg opens, if_neg closes, if_neg noClose, if_neg opens, if_neg closes]

theorem passed_outside_cons {c : Char} (other : c ≠ '\x22') (depth : Nat) (text : List Char) :
    passed .outside depth (c :: text) =
      if c = ')' ∧ depth = 0 then none else passed .outside (depthBehind depth c) text := by
  rw [passed, step_outside other]
  split <;> rfl

section Strings

variable {depth : Nat} {text plain body : List Char}

theorem IsUnquoted.not_mem (unquoted : IsUnquoted text plain) : '\x22' ∉ plain := by
  induction unquoted with
  | nil => exact List.not_mem_nil
  | char other _ found => exact List.not_mem_cons_of_ne_of_not_mem other.symm found
  | string _ _ found => exact found

theorem passed_stringBody (isBody : IsStringBody body) (depth : Nat) :
    passed .insideString depth body = some (.insideString, depth) := by
  unfold IsStringBody at isBody
  induction isBody with
  | nil => rfl
  | char c rest noBackslash _ noQuote _ found =>
    have other : c ≠ '\x22' := by
      rintro rfl
      exact noQuote (List.prefix_append ['\x22'] _)
    rw [passed, ArgumentPlace.step, if_neg noBackslash, if_neg other]
    exact found
  | escape c rest _ found => exact found

/-- **Strings are passed over**: what is open behind a text is open behind what is left of it. -/
theorem passed_eq_of_isUnquoted (unquoted : IsUnquoted text plain) (depth : Nat) :
    passed .outside depth text = passed .outside depth plain := by
  induction unquoted generalizing depth with
  | nil => rfl
  | char other _ found =>
    rw [passed_outside_cons other, passed_outside_cons other]
    split
    · rfl
    · exact found _
  | @string body text plain isBody _ found =>
    have closes : passed .insideString depth (body ++ '\x22' :: text) = passed .outside depth text :=
      passed_append (passed_stringBody isBody depth) _
    exact closes.trans (found depth)

/-- **What is passed over without a string left open** is a text with strings. -/
theorem exists_isUnquoted (text : List Char) :
    (∀ depth open_, passed .outside depth text = some (.outside, open_) →
      ∃ plain, IsUnquoted text plain) ∧
    (∀ depth open_, passed .insideString depth text = some (.outside, open_) →
      ∃ body rest plain, text = body ++ '\x22' :: rest ∧ IsStringBody body ∧ IsUnquoted rest plain) ∧
    ∀ depth open_, passed .behindBackslash depth text = some (.outside, open_) →
      ∃ c body rest plain, text = c :: (body ++ '\x22' :: rest) ∧ IsStringBody body ∧
        IsUnquoted rest plain := by
  -- The parts are the places where the text may begin.
  induction text with
  | nil =>
    exact ⟨fun _ _ _ => ⟨[], .nil⟩, fun _ _ passes => (nomatch passes), fun _ _ passes => (nomatch passes)⟩
  | cons c later found =>
    obtain ⟨outside, inside, behind⟩ := found
    refine ⟨fun depth open_ passes => ?_, fun depth open_ passes => ?_, fun depth open_ passes => ?_⟩
    · by_cases quote : c = '\x22'
      · subst quote
        obtain ⟨body, rest, plain, rfl, isBody, unquoted⟩ := inside depth open_ passes
        exact ⟨plain, .string isBody unquoted⟩
      · rw [passed_outside_cons quote] at passes
        split at passes
        · cases passes
        · obtain ⟨plain, unquoted⟩ := outside _ open_ passes
          exact ⟨c :: plain, .char quote unquoted⟩
    · rw [passed, ArgumentPlace.step] at passes
      by_cases backslash : c = '\\'
      · rw [if_pos backslash] at passes
        obtain ⟨d, body, rest, plain, rfl, isBody, unquoted⟩ := behind depth open_ passes
        exact ⟨c :: d :: body, rest, plain, rfl, backslash ▸ IsInner.escape d body isBody, unquoted⟩
      rw [if_neg backslash] at passes
      by_cases quote : c = '\x22'
      · rw [if_pos quote] at passes
        obtain ⟨plain, unquoted⟩ := outside depth open_ passes
        exact ⟨[], later, plain, by rw [quote]; rfl, IsInner.nil, unquoted⟩
      · rw [if_neg quote] at passes
        obtain ⟨body, rest, plain, rfl, isBody, unquoted⟩ := inside depth open_ passes
        refine ⟨c :: body, rest, plain, rfl, IsInner.char c body backslash rfl ?_ isBody, unquoted⟩
        exact fun starts => quote (List.cons_prefix_cons.mp starts).1.symm
    · obtain ⟨body, rest, plain, rfl, isBody, unquoted⟩ := inside depth open_ passes
      exact ⟨c, body, rest, plain, rfl, isBody, unquoted⟩

end Strings

/-! ### Parentheses without strings -/

/-- Where so many parentheses are open no more are closed, and so many are open behind the text. -/
def Leaves (depth : Nat) (plain : List Char) (open_ : Nat) : Prop :=
  (∀ part, part <+: plain → part.count ')' ≤ depth + part.count '(') ∧
    depth + plain.count '(' = open_ + plain.count ')'

/-- The parentheses of a text are balanced: no prefix of it closes more than it opens, and all that are
opened are closed. -/
def IsBalanced (plain : List Char) : Prop :=
  (∀ part, part <+: plain → part.count ')' ≤ part.count '(') ∧ plain.count '(' = plain.count ')'

theorem leaves_zero_iff {plain : List Char} : Leaves 0 plain 0 ↔ IsBalanced plain := by
  simp only [Leaves, IsBalanced, Nat.zero_add]

section Counts

variable {depth open_ : Nat} {c : Char} {plain : List Char}

/-- The prefixes of a text with a character before it. -/
theorem forall_prefix_cons {holds : List Char → Prop} :
    (∀ part, part <+: c :: plain → holds part) ↔
      holds [] ∧ ∀ part, part <+: plain → holds (c :: part) := by
  constructor
  · exact fun each => ⟨each [] List.nil_prefix, fun part starts =>
      each (c :: part) ((List.prefix_cons_inj c).mpr starts)⟩
  · rintro ⟨nothing, each⟩ part starts
    rcases List.prefix_cons_iff.mp starts with rfl | ⟨later, rfl, within⟩
    · exact nothing
    · exact each later within

theorem leaves_cons_iff : Leaves depth (c :: plain) open_ ↔
    ¬ (c = ')' ∧ depth = 0) ∧ Leaves (depthBehind depth c) plain open_ := by
  simp only [Leaves, forall_prefix_cons, List.count_nil, Nat.zero_le, true_and, List.count_cons,
    depthBehind, beq_iff_eq]
  by_cases opens : c = '('
  · subst opens
    simp only [Char.reduceEq, if_true, if_false, false_and, not_false_eq_true, true_and, Nat.add_zero]
    refine and_congr (forall₂_congr fun part _ => ?_) ?_ <;> omega
  by_cases closes : c = ')'
  · subst closes
    simp only [Char.reduceEq, if_true, if_false, true_and, Nat.add_zero]
    constructor
    · rintro ⟨each, all⟩
      have first := each [] List.nil_prefix
      rw [List.count_nil, List.count_nil] at first
      exact ⟨by omega, fun part starts => by have := each part starts; omega, by omega⟩
    · rintro ⟨more, each, all⟩
      exact ⟨fun part starts => by have := each part starts; omega, by omega⟩
  · simp only [opens, closes, if_false, false_and, not_false_eq_true, true_and, Nat.add_zero]

/-- **The number of parentheses that are open**, where there is no string. -/
theorem passed_eq_some_iff (noQuote : '\x22' ∉ plain) :
    passed .outside depth plain = some (.outside, open_) ↔ Leaves depth plain open_ := by
  induction plain generalizing depth with
  | nil =>
    simp only [passed, Leaves, List.prefix_nil, forall_eq, List.count_nil, Nat.zero_le, true_and,
      Nat.add_zero, Option.some.injEq, Prod.mk.injEq]
  | cons c later found =>
    obtain ⟨other, others⟩ := List.ne_and_not_mem_of_not_mem_cons noQuote
    rw [passed_outside_cons other.symm, leaves_cons_iff, ← found others]
    split
    · exact iff_of_false (Option.some_ne_none _).symm fun both => both.1 ‹_›
    · exact (and_iff_right ‹_›).symm

end Counts

/-! ### Where the search ends -/

/-- Only a parenthesis outside, where no inner one is open, ends the search. -/
theorem step_eq_none {place : ArgumentPlace} {depth : Nat} {c : Char} (ends : place.step depth c = none) :
    place = .outside ∧ depth = 0 ∧ c = ')' := by
  cases place with
  | behindBackslash | insideString => cases ends
  | outside =>
    by_cases quote : c = '\x22'
    · subst quote
      cases ends
    · rw [step_outside quote] at ends
      split at ends
      · rename_i both
        exact ⟨rfl, both.2, both.1⟩
      · cases ends

/-- **The search takes everything, or it ends before a parenthesis** that closes the outermost one. -/
theorem balancedArgsFrom_cases (place : ArgumentPlace) (depth : Nat) (text : List Char) :
    balancedArgsFrom place depth text = text ∨ ∃ rest,
      text = balancedArgsFrom place depth text ++ ')' :: rest ∧
        passed place depth (balancedArgsFrom place depth text) = some (.outside, 0) := by
  induction text generalizing place depth with
  | nil => exact .inl rfl
  | cons c later found =>
    rw [balancedArgsFrom_cons]
    cases steps : place.step depth c with
    | none =>
      obtain ⟨rfl, rfl, rfl⟩ := step_eq_none steps
      exact .inr ⟨later, rfl, rfl⟩
    | some next =>
      obtain ⟨middle, between⟩ := next
      rcases found middle between with all | ⟨rest, whole, passes⟩
      · exact .inl (congrArg (c :: ·) all)
      · refine .inr ⟨rest, congrArg (c :: ·) whole, ?_⟩
        dsimp only
        rw [passed, steps]
        exact passes

/-- The arguments of a call: parentheses outside strings are balanced in them. -/
def IsArguments (text : List Char) : Prop := ∃ plain, IsUnquoted text plain ∧ IsBalanced plain

theorem isArguments_iff {text : List Char} :
    IsArguments text ↔ passed .outside 0 text = some (.outside, 0) := by
  constructor
  · rintro ⟨plain, unquoted, balanced⟩
    rw [passed_eq_of_isUnquoted unquoted, passed_eq_some_iff unquoted.not_mem, leaves_zero_iff]
    exact balanced
  · intro passes
    obtain ⟨plain, unquoted⟩ := (exists_isUnquoted text).1 0 0 passes
    rw [passed_eq_of_isUnquoted unquoted, passed_eq_some_iff unquoted.not_mem, leaves_zero_iff] at passes
    exact ⟨plain, unquoted, passes⟩

/-- **What is balanced before a parenthesis is what is found.** -/
theorem balancedArgs_of_isArguments {before : List Char} (isArguments : IsArguments before)
    (after : List Char) : balancedArgs (before ++ ')' :: after) = before := by
  rw [balancedArgs, balancedArgsFrom_append (isArguments_iff.mp isArguments)]
  exact List.append_nil before

/-! ### The search by positions -/

/-- A search under way: the position, the number of parentheses that are open there, and whether it lies in
a string. -/
structure ArgumentScan where
  position : Nat
  depth : Nat
  inString : Bool

namespace ArgumentScan

/-- One turn of the search for what stands behind a position. A backslash in a string takes the next
character along, even where there is none. -/
def turn (text : List Char) (start : Nat) (scan : ArgumentScan) : Turn ArgumentScan (List Char) :=
  match text[scan.position]? with
  | none => .done (text.drop start)
  | some c =>
    if scan.inString then
      if c = '\\' then .again ⟨scan.position + 2, scan.depth, true⟩
      else if c = '\x22' then .again ⟨scan.position + 1, scan.depth, false⟩
      else .again ⟨scan.position + 1, scan.depth, true⟩
    else if c = '\x22' then .again ⟨scan.position + 1, scan.depth, true⟩
    else if c = '(' then .again ⟨scan.position + 1, scan.depth + 1, false⟩
    else if c = ')' then
      if scan.depth = 1 then .done ((text.drop start).take (scan.position - start))
      else .again ⟨scan.position + 1, scan.depth - 1, false⟩
    else .again ⟨scan.position + 1, scan.depth, false⟩

/-- Where the position of a search lies. -/
def place (scan : ArgumentScan) : ArgumentPlace := if scan.inString then .insideString else .outside

variable {text : List Char} {start : Nat} {scan next : ArgumentScan} {outcome : List Char}

/-- A turn takes one character, as the search does. -/
def TakesOne (scan next : ArgumentScan) (c : Char) : Prop :=
  next.position = scan.position + 1 ∧ ∀ depth, scan.depth = depth + 1 →
    ∃ open_, next.depth = open_ + 1 ∧ scan.place.step depth c = some (next.place, open_)

/-- In a string a turn takes one character, or two where the first one is a backslash. -/
theorem turn_inside {c : Char} (here : text[scan.position]? = some c) (inside : scan.inString = true)
    (goesOn : scan.turn text start = .again next) :
    c = '\\' ∧ next = ⟨scan.position + 2, scan.depth, true⟩ ∨ TakesOne scan next c := by
  obtain ⟨position, depth, inString⟩ := scan
  obtain rfl : inString = true := inside
  simp only [turn, here, if_true] at goesOn
  split at goesOn
  · cases goesOn
    exact .inl ⟨‹_›, rfl⟩
  rename_i noBackslash
  have step : ∀ depth, ArgumentPlace.step .insideString depth c =
      some (if c = '\x22' then .outside else .insideString, depth) := fun depth => by
    rw [ArgumentPlace.step, if_neg noBackslash]
  split at goesOn <;> rename_i quote <;> cases goesOn <;>
    refine .inr ⟨rfl, fun depth open_ => ⟨depth, open_, (step depth).trans ?_⟩⟩
  · rw [if_pos quote]
    rfl
  · rw [if_neg quote]
    rfl

/-- Outside a string a turn takes one character. -/
theorem turn_outside {c : Char} (here : text[scan.position]? = some c) (outside : scan.inString = false)
    (goesOn : scan.turn text start = .again next) : TakesOne scan next c := by
  obtain ⟨position, depth, inString⟩ := scan
  obtain rfl : inString = false := outside
  simp only [turn, here, Bool.false_eq_true, if_false] at goesOn
  split at goesOn
  · rename_i quote
    cases goesOn
    exact ⟨rfl, fun depth open_ => ⟨depth, open_, quote ▸ rfl⟩⟩
  rename_i quote
  split at goesOn
  · rename_i opens
    cases goesOn
    exact ⟨rfl, fun depth open_ => ⟨depth + 1, congrArg (· + 1) open_, opens ▸ rfl⟩⟩
  rename_i opens
  split at goesOn
  · rename_i closes
    split at goesOn
    · cases goesOn
    rename_i more
    cases goesOn
    refine ⟨rfl, fun before open_ => ?_⟩
    -- One parenthesis more than the outermost one is open.
    obtain ⟨inner, rfl⟩ : ∃ inner, before = inner + 1 :=
      Nat.exists_eq_succ_of_ne_zero fun nothing => more (open_.trans (congrArg (· + 1) nothing))
    exact ⟨inner, congrArg (· - 1) open_, closes ▸ rfl⟩
  · rename_i closes
    cases goesOn
    refine ⟨rfl, fun depth open_ => ⟨depth, open_, (step_outside quote depth).trans ?_⟩⟩
    rw [if_neg fun both => closes both.1, depthBehind, if_neg opens, if_neg closes]
    rfl

/-- **A turn takes one character as the search does**, or a backslash in a string and what follows it. -/
theorem turn_again (goesOn : scan.turn text start = .again next) :
    ∃ c, text[scan.position]? = some c ∧
      ((scan.inString = true ∧ c = '\\') ∧ next = ⟨scan.position + 2, scan.depth, true⟩ ∨
        TakesOne scan next c) := by
  cases here : text[scan.position]? with
  | none =>
    rw [turn, here] at goesOn
    cases goesOn
  | some c =>
    refine ⟨c, rfl, ?_⟩
    cases inString : scan.inString with
    | true =>
      rcases turn_inside here inString goesOn with ⟨backslash, same⟩ | one
      · exact .inl ⟨⟨rfl, backslash⟩, same⟩
      · exact .inr one
    | false => exact .inr (turn_outside here inString goesOn)

/-- **A search ends at the end of the text**, or before the parenthesis that closes the outermost one. -/
theorem turn_done (ends : scan.turn text start = .done outcome) :
    text[scan.position]? = none ∧ outcome = text.drop start ∨
      (text[scan.position]? = some ')' ∧ scan.inString = false ∧ scan.depth = 1) ∧
        outcome = (text.drop start).take (scan.position - start) := by
  obtain ⟨position, depth, inString⟩ := scan
  unfold turn at ends
  dsimp only at ends ⊢
  split at ends
  · cases ends
    exact .inl ⟨‹_›, rfl⟩
  rename_i c here
  cases inString with
  | true =>
    rw [if_pos rfl] at ends
    split at ends
    · cases ends
    · split at ends <;> cases ends
  | false =>
    rw [if_neg Bool.false_ne_true] at ends
    split at ends
    · cases ends
    split at ends
    · cases ends
    split at ends
    · rename_i closes
      split at ends <;> cases ends
      exact .inr ⟨⟨closes ▸ here, rfl, ‹_›⟩, rfl⟩
    · cases ends

/-- **The search by positions.** Each turn comes closer to the end of the text, or passes it. -/
def loop (text : List Char) (start : Nat) : Loop ArgumentScan (List Char) where
  turn := turn text start
  size scan := text.length - scan.position
  shrinks {scan next} goesOn := by
    obtain ⟨c, here, two⟩ := turn_again goesOn
    have within := (List.getElem?_eq_some_iff.mp here).1
    rcases two with ⟨_, rfl⟩ | ⟨one, _⟩
    · dsimp only
      omega
    · omega

/-- One character more is taken. -/
theorem take_drop_succ (text : List Char) {position : Nat} (behind : start ≤ position) :
    (text.drop start).take (position + 1 - start) =
      (text.drop start).take (position - start) ++ text[position]?.toList := by
  rw [Nat.succ_sub behind, List.take_add_one, List.getElem?_drop, Nat.add_sub_cancel' behind]

/-- Behind a backslash a character is taken, if there is one. -/
theorem balancedArgsFrom_behindBackslash (depth : Nat) (rest : List Char) :
    balancedArgsFrom .behindBackslash depth rest =
      rest.head?.toList ++ balancedArgsFrom .insideString depth rest.tail := by
  cases rest <;> rfl

/-- **The search by positions finds what the search finds**, from each place on. -/
theorem run_loop (text : List Char) (start : Nat) (scan : ArgumentScan) :
    ∀ depth, scan.depth = depth + 1 → start ≤ scan.position →
      (loop text start).run scan = (text.drop start).take (scan.position - start) ++
        balancedArgsFrom scan.place depth (text.drop scan.position) := by
  induction scan using (loop text start).run_induction with
  | done ends =>
    rename_i scan outcome
    intro depth open_ behind
    rcases turn_done ends with ⟨nothing, rfl⟩ | ⟨⟨closes, outside, one⟩, rfl⟩
    · have beyond := List.getElem?_eq_none_iff.mp nothing
      rw [List.drop_eq_nil_of_le beyond, List.take_of_length_le (by rw [List.length_drop]; omega)]
      cases scan.place <;> exact (List.append_nil _).symm
    · obtain ⟨within, same⟩ := List.getElem?_eq_some_iff.mp closes
      obtain rfl : depth = 0 := by omega
      rw [List.drop_eq_getElem_cons within, same, place, outside]
      exact (List.append_nil _).symm
  | again goesOn later =>
    rename_i scan next outcome
    intro depth open_ behind
    obtain ⟨c, here, two⟩ := turn_again goesOn
    obtain ⟨within, same⟩ := List.getElem?_eq_some_iff.mp here
    have one := take_drop_succ text behind
    rw [here, Option.toList_some] at one
    rw [List.drop_eq_getElem_cons within, same, balancedArgsFrom_cons]
    rcases two with ⟨⟨inString, rfl⟩, rfl⟩ | ⟨position, steps⟩
    · have two := take_drop_succ text (Nat.le_succ_of_le behind)
      have isInside : scan.place = .insideString := by rw [place, inString, if_pos rfl]
      have escaped := balancedArgsFrom_behindBackslash depth (text.drop (scan.position + 1))
      rw [List.head?_drop, List.tail_drop] at escaped
      rw [later depth open_ (by dsimp only; omega), two, one, isInside]
      simp only [List.append_assoc]
      exact congrArg (_ ++ '\\' :: ·) escaped.symm
    · obtain ⟨inner, between, steps⟩ := steps depth open_
      rw [later inner between (by omega), steps, position, one, List.append_assoc]
      rfl

end ArgumentScan

/-! ### The whole -/

/-- **What is found behind an opened parenthesis.** It begins the text that follows. If that goes on, it does
so with the parenthesis that closes the opened one: in what is found the parentheses outside strings are
balanced. Otherwise there is no such parenthesis. Nothing else is balanced before a closing parenthesis, and
the search by positions ends after as many turns as there are characters, and one more. -/
theorem balancedArgs_spec (text : List Char) (start : Nat) :
    balancedArgs (text.drop start) <+: text.drop start ∧
      (balancedArgs (text.drop start) ≠ text.drop start →
        (∃ after, text.drop start = balancedArgs (text.drop start) ++ ')' :: after) ∧
          IsArguments (balancedArgs (text.drop start))) ∧
      (balancedArgs (text.drop start) = text.drop start →
        ¬ ∃ before after, text.drop start = before ++ ')' :: after ∧ IsArguments before) ∧
      (∀ before after, text.drop start = before ++ ')' :: after → IsArguments before →
        before = balancedArgs (text.drop start)) ∧
      ∃ count ≤ text.length - start + 1, Runs (ArgumentScan.turn text start) ⟨start, 1, false⟩ count
        (balancedArgs (text.drop start)) := by
  have unique : ∀ before after, text.drop start = before ++ ')' :: after → IsArguments before →
      before = balancedArgs (text.drop start) := by
    intro before after whole isArguments
    rw [whole, balancedArgs_of_isArguments isArguments]
  refine ⟨isPrefix_balancedArgsFrom .outside 0 _, fun more => ?_, ?_, unique, ?_⟩
  · rcases balancedArgsFrom_cases .outside 0 (text.drop start) with all | ⟨after, whole, passes⟩
    · exact absurd all more
    · exact ⟨⟨after, whole⟩, isArguments_iff.mpr passes⟩
  · rintro all ⟨before, after, whole, isArguments⟩
    -- The text that follows would be a part of itself.
    have same := unique before after whole isArguments
    rw [all, whole] at same
    exact absurd (List.self_eq_append_right.mp same) (List.cons_ne_nil _ _)
  · have found : (ArgumentScan.loop text start).run ⟨start, 1, false⟩ = balancedArgs (text.drop start) := by
      rw [ArgumentScan.run_loop text start _ 0 rfl (Nat.le_refl start), Nat.sub_self]
      rfl
    obtain ⟨count, few, runs⟩ := (ArgumentScan.loop text start).exists_runs ⟨start, 1, false⟩
    rw [found] at runs
    exact ⟨count, few, runs⟩

/-- Parentheses in a string do not count, nor does a double quote behind a backslash end it. -/
example : balancedArgs "f(?x, \x22\\\x22)\x22)) && ?y".toList = "f(?x, \x22\\\x22)\x22)".toList := by
  decide

/-- A backslash ends the text, in a string that is left open. -/
example : balancedArgs "?x, \x22)\\".toList = "?x, \x22)\\".toList := by decide

end HistoricalFigures.Query
