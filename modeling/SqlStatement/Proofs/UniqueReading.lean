import SqlStatement.Proofs.Grammar
import Mathlib.Tactic

/-!
# Reading in one way only

Something is unmistakable if, wherever its lexemes stand, nothing else of its
kind can be read there: what is read is the same up to its form, and ends at
the same place.  What may follow has to be limited for this, to what cannot
be read as a part of it.

Here are the laws for sequences, options and lists, and the constructs that
have no expressions in them.
-/

namespace SqlStatement

open Lexeme

/-- Nothing but `x`, up to its form, is read where `x` is written. -/
def Unmistakable (print : α → List Lexeme) (form : α → β) (ok : α → Prop)
    (stops : List Lexeme → Bool) (x : α) : Prop :=
  ∀ y, ok y → ∀ rest rest', stops rest = true → stops rest' = true →
    print x ++ rest = print y ++ rest' → form x = form y ∧ rest = rest'

namespace Unmistakable

variable {print : α → List Lexeme} {form : α → β} {ok : α → Prop}
  {stops ends : List Lexeme → Bool} {separator : List Lexeme}

theorem mono {more : List Lexeme → Bool} {x : α}
    (h : Unmistakable print form ok stops x)
    (hmore : ∀ rest, more rest = true → stops rest = true) :
    Unmistakable print form ok more x := by
  intro y hy rest rest' hrest hrest' heq
  exact h y hy rest rest' (hmore rest hrest) (hmore rest' hrest') heq

/-- What may follow an element of a list: another one after a separator, or
the end of the list. -/
structure Delimits (print : α → List Lexeme) (ok : α → Prop)
    (stops ends : List Lexeme → Bool) (separator : List Lexeme) : Prop where
  stops_separator : ∀ x, ok x → ∀ rest,
    stops (separator ++ (print x ++ rest)) = true
  stops_of_ends : ∀ rest, ends rest = true → stops rest = true
  not_ends_separator : ∀ x, ok x → ∀ rest,
    ends (separator ++ (print x ++ rest)) = false

/-- What follows an element is the next one or the end. -/
theorem Delimits.stops_flatMap (h : Delimits print ok stops ends separator)
    {xs : List α} (hok : ∀ x ∈ xs, ok x) {rest : List Lexeme}
    (hrest : ends rest = true) :
    stops ((xs.flatMap fun x => separator ++ print x) ++ rest) = true := by
  cases xs with
  | nil => exact h.stops_of_ends rest hrest
  | cons x xs =>
      rw [List.flatMap_cons, List.append_assoc, List.append_assoc]
      exact h.stops_separator x (hok x List.mem_cons_self) _

/-- Elements that are all written after a separator. -/
theorem flatMap (h : Delimits print ok stops ends separator) {xs : List α}
    (hok : ∀ x ∈ xs, ok x)
    (hxs : ∀ x ∈ xs, Unmistakable print form ok stops x) :
    Unmistakable (fun xs => xs.flatMap fun x => separator ++ print x)
      (List.map form) (fun xs => ∀ x ∈ xs, ok x) ends xs := by
  induction xs with
  | nil =>
      intro ys hys rest rest' hrest hrest' heq
      cases ys with
      | nil => exact ⟨rfl, heq⟩
      | cons y ys =>
          have hends := h.not_ends_separator y (hys y List.mem_cons_self)
          simp only [List.flatMap_nil, List.nil_append, List.flatMap_cons,
            List.append_assoc] at heq
          rw [heq, hends] at hrest
          cases hrest
  | cons x xs ih =>
      intro ys hys rest rest' hrest hrest' heq
      rw [List.forall_mem_cons] at hok hxs
      cases ys with
      | nil =>
          have hends := h.not_ends_separator x hok.1
          simp only [List.flatMap_nil, List.nil_append, List.flatMap_cons,
            List.append_assoc] at heq
          rw [← heq, hends] at hrest'
          cases hrest'
      | cons y ys =>
          rw [List.forall_mem_cons] at hys
          simp only [List.flatMap_cons, List.append_assoc] at heq
          obtain ⟨hform, hrests⟩ := hxs.1 y hys.1 _ _
            (h.stops_flatMap hok.2 hrest) (h.stops_flatMap hys.2 hrest')
            (List.append_cancel_left heq)
          obtain ⟨hforms, hend⟩ := ih hok.2 hxs.2 ys hys.2 rest rest' hrest
            hrest' hrests
          exact ⟨List.cons_eq_cons.mpr ⟨hform, hforms⟩, hend⟩

/-- A list with separators between its elements. -/
theorem separated (h : Delimits print ok stops ends separator)
    (hopens : ∀ x, ok x → ∀ rest, ends (print x ++ rest) = false)
    {xs : List α} (hok : ∀ x ∈ xs, ok x)
    (hxs : ∀ x ∈ xs, Unmistakable print form ok stops x) :
    Unmistakable (fun xs => Lexeme.separated separator (xs.map print))
      (List.map form) (fun xs => ∀ x ∈ xs, ok x) ends xs := by
  intro ys hys rest rest' hrest hrest' heq
  cases xs with
  | nil =>
      cases ys with
      | nil => exact ⟨rfl, heq⟩
      | cons y ys =>
          have hends := hopens y (hys y List.mem_cons_self)
          simp only [List.map_nil, List.map_cons, Lexeme.separated,
            List.nil_append, List.append_assoc] at heq
          rw [heq, hends] at hrest
          cases hrest
  | cons x xs =>
      rw [List.forall_mem_cons] at hok hxs
      cases ys with
      | nil =>
          have hends := hopens x hok.1
          simp only [List.map_nil, List.map_cons, Lexeme.separated,
            List.nil_append, List.append_assoc] at heq
          rw [← heq, hends] at hrest'
          cases hrest'
      | cons y ys =>
          rw [List.forall_mem_cons] at hys
          simp only [List.map_cons, Lexeme.separated, List.append_assoc,
            List.flatMap_map] at heq
          obtain ⟨hform, hrests⟩ := hxs.1 y hys.1 _ _
            (h.stops_flatMap hok.2 hrest) (h.stops_flatMap hys.2 hrest') heq
          obtain ⟨hforms, hend⟩ := flatMap h hok.2 hxs.2 ys hys.2 rest rest'
            hrest hrest' hrests
          exact ⟨List.cons_eq_cons.mpr ⟨hform, hforms⟩, hend⟩

/-- Something that may be missing. -/
theorem option {x? : Option α}
    (hopens : ∀ x, ok x → ∀ rest, stops (print x ++ rest) = false)
    (hok : ∀ x ∈ x?, ok x)
    (hx : ∀ x ∈ x?, Unmistakable print form ok stops x) :
    Unmistakable (fun x? => x?.elim [] print) (Option.map form)
      (fun x? => ∀ x ∈ x?, ok x) stops x? := by
  intro y? hy rest rest' hrest hrest' heq
  cases x? with
  | none =>
      cases y? with
      | none => exact ⟨rfl, heq⟩
      | some y =>
          have hstops := hopens y (hy y rfl) rest'
          simp only [Option.elim, List.nil_append] at heq
          rw [← heq, hrest] at hstops
          cases hstops
  | some x =>
      cases y? with
      | none =>
          have hstops := hopens x (hok x rfl) rest
          simp only [Option.elim, List.nil_append] at heq
          rw [heq, hrest'] at hstops
          cases hstops
      | some y =>
          obtain ⟨hform, hend⟩ :=
            hx x rfl y (hy y rfl) rest rest' hrest hrest' heq
          exact ⟨congrArg some hform, hend⟩

end Unmistakable

/-! ## What may follow -/

namespace Lexeme

def startsWithWord (words : List String) : List Lexeme → Bool
  | .word w :: _ => words.contains w
  | _ => false

/-- The end of the text, one of the marks, or one of the words after a space. -/
def stopsAt (marks : List Char) (words : List String) : List Lexeme → Bool
  | [] => true
  | .mark c :: after =>
      marks.contains c || (c == ' ' && startsWithWord words after)
  | _ => false

theorem stopsAt_mono {marks more : List Char} {words others : List String}
    (hmarks : marks ⊆ more) (hwords : words ⊆ others) {rest : List Lexeme}
    (h : stopsAt marks words rest = true) :
    stopsAt more others rest = true := by
  have hwords : ∀ after, startsWithWord words after = true →
      startsWithWord others after = true := by
    intro after hafter
    unfold startsWithWord at hafter ⊢
    split at hafter
    · simp only [List.contains_iff_mem] at hafter ⊢
      exact hwords hafter
    · cases hafter
  unfold stopsAt at h ⊢
  split at h
  · rfl
  · simp only [Bool.or_eq_true, Bool.and_eq_true, List.contains_iff_mem] at h ⊢
    rcases h with hmark | ⟨hspace, hafter⟩
    · exact .inl (hmarks hmark)
    · exact .inr ⟨hspace, hwords _ hafter⟩
  · cases h

theorem head_of_stopsAt {rest : List Lexeme}
    (h : stopsAt [')'] [] rest = true) :
    ∀ lexeme ∈ rest.head?, lexeme = .mark ')' := by
  intro lexeme hlexeme
  obtain ⟨after, rfl⟩ := List.head?_eq_some_iff.mp hlexeme
  unfold stopsAt at h
  have hword : startsWithWord [] after = false := by
    unfold startsWithWord
    split <;> rfl
  cases lexeme <;> simp_all

/-- Up to a lexeme that is in neither of them, two lists are the same. -/
theorem append_inj_of_not_mem {lexeme : Lexeme}
    {before before' rest rest' : List Lexeme} (hbefore : lexeme ∉ before)
    (hbefore' : lexeme ∉ before') (hrest : ∀ l ∈ rest.head?, l = lexeme)
    (hrest' : ∀ l ∈ rest'.head?, l = lexeme)
    (heq : before ++ rest = before' ++ rest') :
    before = before' ∧ rest = rest' := by
  induction before generalizing before' with
  | nil =>
      cases before' with
      | nil => exact ⟨rfl, heq⟩
      | cons first before' =>
          rw [List.nil_append] at heq
          obtain rfl : first = lexeme := hrest first (by simp [heq])
          exact absurd List.mem_cons_self hbefore'
  | cons first before ih =>
      cases before' with
      | nil =>
          rw [List.nil_append] at heq
          obtain rfl : first = lexeme := hrest' first (by simp [← heq])
          exact absurd List.mem_cons_self hbefore
      | cons second before' =>
          rw [List.cons_append, List.cons_append, List.cons.injEq] at heq
          obtain ⟨rfl, heq⟩ := heq
          obtain ⟨rfl, hend⟩ := ih (List.not_mem_of_not_mem_cons hbefore)
            (List.not_mem_of_not_mem_cons hbefore') heq
          exact ⟨rfl, hend⟩

theorem spaced_injective {first second : Option (List Lexeme)}
    (h : spaced first = spaced second) : first = second := by
  cases first <;> cases second <;> simp_all [spaced]

/-- An expression is not followed by the parenthesis that would make a call
of it. -/
def noCall (rest : List Lexeme) : Bool :=
  rest.head? != some (.mark '(')

theorem noCall_of_stopsAt {marks : List Char} {words : List String}
    (hmarks : '(' ∉ marks) {rest : List Lexeme}
    (h : stopsAt marks words rest = true) : noCall rest = true := by
  unfold noCall
  by_contra hcall
  obtain ⟨after, rfl⟩ : ∃ after, rest = .mark '(' :: after := by
    simpa [List.head?_eq_some_iff] using hcall
  simp [stopsAt, hmarks] at h

end Lexeme

/-! ## Literals -/

namespace Literal

def isFloat : Literal → Bool
  | float _ => true
  | _ => false

theorem lexemes_integer (value : Int64) :
    (Literal.integer value).lexemes =
      match value.toInt with
      | .ofNat n => [.word n.repr]
      | .negSucc n => [.mark '-', .word n.succ.repr] := by
  change Lexeme.plain value.toInt.repr.toList = _
  cases value.toInt with
  | ofNat n => exact plain_of_isWord (Text.isWord_repr n)
  | negSucc n =>
      have hdigits := plain_of_isWord (Text.isWord_repr n.succ)
      rw [Int.repr, String.toList_append]
      change .mark '-' :: Lexeme.plain n.succ.repr.toList = _
      rw [hdigits]

theorem lexemes_boolean (value : Bool) :
    (Literal.boolean value).lexemes =
      [.word (if value then "TRUE" else "FALSE")] := by
  cases value <;> rfl

theorem lexemes_null : Literal.null.lexemes = [.word "NULL"] :=
  rfl

theorem lexemes_string (value : String) :
    (Literal.string value).lexemes = [.string value] :=
  rfl

/-- No number is written like a word with letters. -/
theorem repr_ne (n : Nat) {word : String}
    (hword : word.toList.all Char.isDigit = false) : n.repr ≠ word := by
  rintro rfl
  have hdigits : n.repr.toList.all Char.isDigit = true := by
    rw [Nat.toList_repr, List.all_eq_true]
    intro c hc
    exact Nat.isDigit_of_mem_toDigits (by decide) (by decide) hc
  rw [hdigits] at hword
  cases hword

theorem integer_unmistakable {value other : Int64} {rest rest' : List Lexeme}
    (heq : (Literal.integer value).lexemes ++ rest =
      (Literal.integer other).lexemes ++ rest') :
    value = other ∧ rest = rest' := by
  rw [lexemes_integer, lexemes_integer] at heq
  have hvalues : value.toInt = other.toInt ∧ rest = rest' := by
    cases hvalue : value.toInt with
    | ofNat n =>
        cases hother : other.toInt with
        | ofNat m =>
            simp only [hvalue, hother, List.cons_append, List.nil_append,
              List.cons.injEq, Lexeme.word.injEq] at heq
            exact ⟨congrArg Int.ofNat (Nat.repr_injective heq.1), heq.2⟩
        | negSucc m => simp [hvalue, hother] at heq
    | negSucc n =>
        cases hother : other.toInt with
        | ofNat m => simp [hvalue, hother] at heq
        | negSucc m =>
            simp only [hvalue, hother, List.cons_append, List.nil_append,
              List.cons.injEq, true_and, Lexeme.word.injEq] at heq
            have hsucc : n.succ = m.succ := Nat.repr_injective heq.1
            exact ⟨congrArg Int.negSucc (Nat.succ.inj hsucc), heq.2⟩
  exact ⟨Int64.toInt_inj.mp hvalues.1, hvalues.2⟩

theorem integer_lexemes_ne (value : Int64) {other : Literal}
    (hfloat : other.isFloat = false) (hother : ∀ n, other ≠ .integer n)
    (rest rest' : List Lexeme) :
    (Literal.integer value).lexemes ++ rest ≠ other.lexemes ++ rest' := by
  have htrue : ∀ n : Nat, n.repr ≠ "TRUE" := fun n => repr_ne n (by decide)
  have hfalse : ∀ n : Nat, n.repr ≠ "FALSE" := fun n => repr_ne n (by decide)
  have hnull : ∀ n : Nat, n.repr ≠ "NULL" := fun n => repr_ne n (by decide)
  rw [lexemes_integer]
  cases other with
  | integer n => exact absurd rfl (hother n)
  | float _ => cases hfloat
  | string text => cases value.toInt <;> simp [lexemes_string]
  | boolean truth =>
      cases truth <;> cases value.toInt <;>
        simp [lexemes_boolean, htrue, hfalse]
  | null => cases value.toInt <;> simp [lexemes_null, hnull]

theorem unmistakable {value : Literal} (hvalue : value.isFloat = false) :
    Unmistakable lexemes id (fun other => other.isFloat = false)
      (fun _ => true) value := by
  intro other hother rest rest' _ _ heq
  cases value with
  | integer n =>
      cases other with
      | integer m =>
          obtain ⟨rfl, hrest⟩ := integer_unmistakable heq
          exact ⟨rfl, hrest⟩
      | _ => exact absurd heq (integer_lexemes_ne n hother (by simp) _ _)
  | float _ => cases hvalue
  | string text =>
      cases other with
      | integer m =>
          exact absurd heq.symm (integer_lexemes_ne m hvalue (by simp) _ _)
      | float _ => cases hother
      | string other => simpa [lexemes_string] using heq
      | boolean _ => simp [lexemes_string, lexemes_boolean] at heq
      | null => simp [lexemes_string, lexemes_null] at heq
  | boolean truth =>
      cases other with
      | integer m =>
          exact absurd heq.symm (integer_lexemes_ne m hvalue (by simp) _ _)
      | float _ => cases hother
      | string _ => simp [lexemes_string, lexemes_boolean] at heq
      | boolean other =>
          cases truth <;> cases other <;>
            simp [lexemes_boolean] at heq ⊢ <;> exact heq
      | null => cases truth <;> simp [lexemes_boolean, lexemes_null] at heq
  | null =>
      cases other with
      | integer m =>
          exact absurd heq.symm (integer_lexemes_ne m hvalue (by simp) _ _)
      | float _ => cases hother
      | string _ => simp [lexemes_string, lexemes_null] at heq
      | boolean other =>
          cases other <;> simp [lexemes_boolean, lexemes_null] at heq
      | null => exact ⟨rfl, List.append_cancel_left heq⟩

end Literal

/-! ## Tables, directions and pagings -/

/-- What may come after the FROM, and after each clause that follows it. -/
def pagingWords : List String :=
  ["FETCH", "OFFSET", "LIMIT"]

def orderWords : List String :=
  "ORDER" :: pagingWords

def whereWords : List String :=
  "WHERE" :: orderWords

def joinWords : List String :=
  "JOIN" :: "LEFT" :: "RIGHT" :: "FULL" :: whereWords

theorem Identifier.aliasLexemes_unmistakable (aliasName : Identifier) :
    Unmistakable aliasLexemes bare (fun _ => True) (fun _ => true)
      aliasName := by
  intro other _ rest rest' _ _ heq
  simp only [aliasLexemes, List.cons_append, List.nil_append,
    List.cons.injEq, true_and, Lexeme.name.injEq] at heq
  exact ⟨bare_eq_bare_iff.mpr heq.1, heq.2⟩

theorem Table.unmistakable (known : Dialect.Known) (table : Table) :
    Unmistakable (Table.lexemes known) normal (fun _ => True)
      (stopsAt [')', ','] ("ON" :: joinWords)) table := by
  intro other _ rest rest' hrest hrest' heq
  have halias : Unmistakable
      (fun aliasName? => aliasName?.elim [] Identifier.aliasLexemes)
      (Option.map Identifier.bare) (fun aliasName? => ∀ a ∈ aliasName?, True)
      (stopsAt [')', ','] ("ON" :: joinWords)) table.aliasName? :=
    .option (fun _ _ _ => rfl) (fun _ _ => trivial)
      (fun aliasName _ => aliasName.aliasLexemes_unmistakable.mono (by simp))
  rw [lexemes_eq, lexemes_eq] at heq
  simp only [List.cons_append, List.cons.injEq, Lexeme.name.injEq] at heq
  obtain ⟨hname, hrests⟩ := heq
  obtain ⟨haliases, hend⟩ := halias other.aliasName? (fun _ _ => trivial) rest
    rest' hrest hrest' hrests
  refine ⟨?_, hend⟩
  unfold normal
  rw [Identifier.bare_eq_bare_iff.mpr hname, haliases]

theorem JoinKind.unmistakable (kind : JoinKind) :
    Unmistakable lexemes id (fun _ => True) (fun _ => true) kind := by
  intro other _ rest rest' _ _ heq
  cases kind <;> cases other <;> simp [lexemes] at heq ⊢ <;> exact heq

theorem Comparator.unmistakable (comparator : Comparator) :
    Unmistakable (fun comparator => comparator.lexemes ++ [Lexeme.mark ' ']) id
      (fun _ => True) (fun _ => true) comparator := by
  intro other _ rest rest' _ _ heq
  cases comparator <;> cases other <;> simp [lexemes] at heq ⊢ <;> exact heq

theorem Direction.unmistakable (direction : Direction) :
    Unmistakable lexemes id (fun _ => True) (fun _ => true) direction := by
  intro other _ rest rest' _ _ heq
  cases direction <;> cases other <;> simp [lexemes] at heq ⊢ <;> exact heq

theorem NullOrder.unmistakable (nulls : NullOrder) :
    Unmistakable lexemes id (fun _ => True) (fun _ => true) nulls := by
  intro other _ rest rest' _ _ heq
  cases nulls <;> cases other <;> simp [lexemes] at heq ⊢ <;> exact heq

/-! ## Paging -/

namespace Dialect.Known

variable (known : Known)

theorem decimal_injective {n m : UInt64} (h : decimal n = decimal m) :
    n = m :=
  UInt64.toNat_inj.mp (Nat.repr_injective h)

/-- The dialects begin pagings that they tell apart with other words, or go on
otherwise after the first number. -/
theorem normalPaging_eq_of_lexemes {limit offset limit' offset' : Option UInt64}
    (h : known.pagingLexemes limit offset =
      known.pagingLexemes limit' offset') :
    known.normalPaging limit offset = known.normalPaging limit' offset' := by
  have hdecimal : ∀ n m : UInt64, decimal n = decimal m ↔ n = m :=
    fun n m => ⟨decimal_injective, congrArg decimal⟩
  cases known <;> cases limit <;> cases offset <;> cases limit' <;>
    cases offset' <;>
    simp [pagingLexemes, limitLexemes, offsetLexemes, limitOffsetLexemes,
      phrase, separated, normalPaging, hdecimal] at h ⊢ <;>
    simp_all

theorem close_not_mem_paging (limit offset : Option UInt64) :
    Lexeme.mark ')' ∉ spaced (known.pagingLexemes limit offset) := by
  cases limit <;> cases offset <;> cases known <;>
    simp [spaced, pagingLexemes, limitLexemes, offsetLexemes,
      limitOffsetLexemes, phrase, separated]

theorem paging_unmistakable (paging : Option UInt64 × Option UInt64) :
    Unmistakable
      (fun paging => spaced (known.pagingLexemes paging.1 paging.2))
      (fun paging => known.normalPaging paging.1 paging.2) (fun _ => True)
      (stopsAt [')'] []) paging := by
  intro other _ rest rest' hrest hrest' heq
  obtain ⟨hspaced, hend⟩ := append_inj_of_not_mem
    (known.close_not_mem_paging _ _) (known.close_not_mem_paging _ _)
    (head_of_stopsAt hrest) (head_of_stopsAt hrest') heq
  have hlexemes : known.pagingLexemes paging.1 paging.2 =
      known.pagingLexemes other.1 other.2 := spaced_injective hspaced
  exact ⟨known.normalPaging_eq_of_lexemes hlexemes, hend⟩

theorem stopsAt_paging (limit offset : Option UInt64) {rest : List Lexeme}
    (hrest : stopsAt [')'] [] rest = true) :
    stopsAt [')'] pagingWords
      (spaced (known.pagingLexemes limit offset) ++ rest) = true := by
  cases limit <;> cases offset
  · exact stopsAt_mono (by simp) (by simp) hrest
  all_goals cases known <;> rfl

end Dialect.Known

end SqlStatement
