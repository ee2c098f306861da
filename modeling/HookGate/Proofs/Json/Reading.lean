import Mathlib
import HookGate.Proofs.Json.Grammar

/-!
# Readers that succeed

What it takes for the readers of marks, words, strings and numbers to succeed, in the terms of the
grammar.
-/

namespace HookGate.Json.Reader

variable {α β : Type} {cs rest : List Char}

/-! ## Readers put together -/

theorem bind_eq_ok {x : Reader α} {f : α → Reader β} {b : β} :
    (x >>= f) cs = .ok (b, rest) ↔ ∃ a mid, x cs = .ok (a, mid) ∧ f a mid = .ok (b, rest) := by
  change (x cs).bind (fun found => f found.1 found.2) = _ ↔ _
  cases x cs with
  | error e => simp [Except.bind]
  | ok found =>
    obtain ⟨a, mid⟩ := found
    simp [Except.bind]

/-- A reader that gives nothing of its own, and what follows it. -/
theorem unit_bind_eq_ok {x : Reader Unit} {f : Unit → Reader β} {b : β} :
    (x >>= f) cs = .ok (b, rest) ↔ ∃ mid, x cs = .ok ((), mid) ∧ f () mid = .ok (b, rest) := by
  rw [bind_eq_ok]
  exact ⟨fun ⟨_, h⟩ => h, fun h => ⟨(), h⟩⟩

@[simp] theorem pure_eq_ok {a b : α} : (pure a : Reader α) cs = .ok (b, rest) ↔ a = b ∧ cs = rest := by
  change Except.ok (a, cs) = .ok (b, rest) ↔ _
  simp

@[simp] theorem fail_ne_ok {e : Error} {r : α × List Char} : (fail e : Reader α) cs ≠ .ok r :=
  fun h => by cases h

@[simp] theorem fail_bind_ne_ok {e : Error} {f : α → Reader β} {r : β × List Char} :
    (fail e >>= f) cs ≠ .ok r :=
  fun h => by cases h

/-- Passes over blanks and goes on with the character behind them. -/
@[simp] theorem peekToken_bind (f : Option Char → Reader β) (cs : List Char) :
    (peekToken >>= f) cs = f (cs.dropWhile isSpace).head? (cs.dropWhile isSpace) := rfl

@[simp] theorem advance_bind (f : Unit → Reader β) (c : Char) (cs : List Char) :
    (advance >>= f) (c :: cs) = f () cs := rfl

/-! ## Blanks -/

theorem dropWhile_dropWhile_isSpace (cs : List Char) :
    (cs.dropWhile isSpace).dropWhile isSpace = cs.dropWhile isSpace := by
  rw [List.dropWhile_idempotent]

theorem next_cons {c : Char} (h : isSpace c = false) : Next c (c :: cs) cs := by
  rw [Next, List.dropWhile_cons_of_neg (by simp [h])]

theorem rest_eq_of_next {c : Char} {r : List Char} (hc : isSpace c = false) (h : Next c (c :: r) rest) :
    r = rest := by
  simpa using (next_cons hc).symm.trans h

/-! ## Marks -/

theorem colon_eq_ok : colon cs = .ok ((), rest) ↔ Next ':' cs rest := by
  rw [colon, peekToken_bind, Next]
  cases h : cs.dropWhile isSpace with
  | nil => simp
  | cons c r => by_cases hc : c = ':' <;> simp [hc, advance]

theorem listEnd_eq_ok : listEnd cs = .ok ((), rest) ↔ Next ']' cs rest := by
  rw [listEnd, peekToken_bind, Next]
  cases h : cs.dropWhile isSpace with
  | nil => simp
  | cons c r =>
    by_cases hend : c = ']'
    · simp [hend, advance]
    · by_cases hcomma : c = ','
      · subst hcomma
        cases hr : r.dropWhile isSpace with
        | nil => simp [hr]
        | cons d r' => by_cases hd : d = ']' <;> simp [hr, hd]
      · simp [hend]

theorem objectEnd_eq_ok : objectEnd cs = .ok ((), rest) ↔ Next '\x7d' cs rest := by
  rw [objectEnd, peekToken_bind, Next]
  cases h : cs.dropWhile isSpace with
  | nil => simp
  | cons c r =>
    by_cases hend : c = '\x7d'
    · simp [hend, advance]
    · by_cases hcomma : c = ',' <;> simp [hend, hcomma]

theorem enter_eq_ok {depth n : Nat} :
    enter depth cs = .ok (n, rest) ↔ 0 < n ∧ depth = n + 1 ∧ rest = cs := by
  by_cases hdepth : depth ≤ 1
  · rw [enter, if_pos hdepth]
    simp only [fail_ne_ok, false_iff]
    omega
  · rw [enter, if_neg hdepth, pure_eq_ok]
    constructor
    · rintro ⟨rfl, rfl⟩
      exact ⟨by omega, by omega, rfl⟩
    · rintro ⟨-, rfl, rfl⟩
      exact ⟨rfl, rfl⟩

@[simp] theorem separated_true {cs' : List Char} : Separated true cs cs' ↔ cs' = cs :=
  ⟨fun h => by cases h; rfl, fun h => h ▸ .first⟩

@[simp] theorem separated_false {cs' : List Char} : Separated false cs cs' ↔ Next ',' cs cs' :=
  ⟨fun h => by cases h; assumption, .comma⟩

/-- A list ends where its bracket is, which is left in place. -/
theorem moreItems_false_eq_ok {first : Bool} :
    moreItems first cs = .ok (false, rest) ↔ ∃ r, Next ']' cs r ∧ rest = ']' :: r := by
  rw [moreItems, peekToken_bind]
  cases h : cs.dropWhile isSpace with
  | nil => simp [Next, h]
  | cons c r =>
    by_cases hend : c = ']'
    · simp [hend, Next, h, eq_comm (a := rest)]
    · by_cases hcomma : c = ','
      · subst hcomma
        cases hr : r.dropWhile isSpace with
        | nil => cases first <;> simp [Next, h, hr]
        | cons d r' => by_cases hd : d = ']' <;> cases first <;> simp [Next, h, hr, hd]
      · cases first <;> simp [hend, hcomma, Next, h]

/-- It goes on where an item is separated from what stands in front of it. -/
theorem moreItems_true_eq_ok {first : Bool} :
    moreItems first cs = .ok (true, rest) ↔
      ∃ cs' c r, Separated first cs cs' ∧ Next c cs' r ∧ c ≠ ']' ∧ rest = c :: r := by
  rw [moreItems, peekToken_bind]
  cases h : cs.dropWhile isSpace with
  | nil => cases first <;> simp [Next, h]
  | cons c r =>
    by_cases hend : c = ']'
    · subst hend
      cases first <;> simp [Next, h]
    · by_cases hcomma : c = ','
      · subst hcomma
        cases hr : r.dropWhile isSpace with
        | nil => cases first <;> simp [Next, h, hr, eq_comm (a := rest)]
        | cons d r' =>
          by_cases hd : d = ']' <;> cases first <;>
            simp [Next, h, hr, hd, eq_comm (a := rest)]
      · cases first <;> simp [hend, hcomma, Next, h, eq_comm (a := rest)]

/-- An object ends where its brace is, which is left in place. -/
theorem moreMembers_false_eq_ok {first : Bool} :
    moreMembers first cs = .ok (false, rest) ↔ ∃ r, Next '\x7d' cs r ∧ rest = '\x7d' :: r := by
  rw [moreMembers, peekToken_bind]
  cases h : cs.dropWhile isSpace with
  | nil => simp [Next, h]
  | cons c r =>
    by_cases hend : c = '\x7d'
    · simp [hend, Next, h, eq_comm (a := rest)]
    · by_cases hcomma : c = ','
      · subst hcomma
        cases hr : r.dropWhile isSpace with
        | nil => cases first <;> simp [Next, h, hr]
        | cons d r' =>
          by_cases hquote : d = '"'
          · cases first <;> simp [Next, h, hr, hquote]
          · by_cases hd : d = '\x7d' <;> cases first <;> simp [Next, h, hr, hd]
      · by_cases hquote : c = '"' <;> cases first <;> simp [hend, hcomma, hquote, Next, h]

/-- It goes on where a name is separated from what stands in front of it. -/
theorem moreMembers_true_eq_ok {first : Bool} :
    moreMembers first cs = .ok (true, rest) ↔
      ∃ cs' r, Separated first cs cs' ∧ Next '"' cs' r ∧ rest = '"' :: r := by
  rw [moreMembers, peekToken_bind]
  cases h : cs.dropWhile isSpace with
  | nil => cases first <;> simp [Next, h]
  | cons c r =>
    by_cases hend : c = '\x7d'
    · subst hend
      cases first <;> simp [Next, h]
    · by_cases hcomma : c = ','
      · subst hcomma
        cases hr : r.dropWhile isSpace with
        | nil => cases first <;> simp [Next, h, hr]
        | cons d r' =>
          by_cases hquote : d = '"'
          · cases first <;> simp [Next, h, hr, hquote, eq_comm (a := rest)]
          · by_cases hd : d = '\x7d' <;> cases first <;> simp [Next, h, hr, hquote, hd]
      · by_cases hquote : c = '"'
        · cases first <;> simp [hquote, Next, h, eq_comm (a := rest)]
        · cases first <;> simp [hcomma, hquote, Next, h]

theorem separated_of_separator {first : Bool} {c : Char} {e : Error} {r mid : List Char}
    (hnext : Next c cs r) (h : separator first c e (c :: r) = .ok ((), mid)) :
    ∃ cs', Separated first cs cs' ∧ mid.dropWhile isSpace = cs'.dropWhile isSpace := by
  cases first with
  | true =>
    obtain ⟨-, rfl⟩ := pure_eq_ok.mp h
    exact ⟨cs, .first, hnext ▸ dropWhile_dropWhile_isSpace cs⟩
  | false =>
    by_cases hc : c = ','
    · subst hc
      have hmid : r = mid := by simpa [separator, advance] using h
      exact ⟨r, .comma hnext, by rw [hmid]⟩
    · simp [separator, hc] at h

theorem separator_of_separated {first : Bool} {c : Char} {r cs' : List Char}
    (hnext : Next c cs r) (h : Separated first cs cs') (e : Error) :
    ∃ mid, separator first c e (c :: r) = .ok ((), mid) ∧
      mid.dropWhile isSpace = cs'.dropWhile isSpace := by
  cases h with
  | first => exact ⟨c :: r, rfl, hnext ▸ dropWhile_dropWhile_isSpace cs⟩
  | comma hcomma =>
    obtain ⟨rfl, rfl⟩ : c = ',' ∧ r = cs' := by simpa using hnext.symm.trans hcomma
    exact ⟨r, rfl, rfl⟩

theorem openName_eq_ok : openName cs = .ok ((), rest) ↔ Next '"' cs rest := by
  rw [openName, peekToken_bind, Next]
  cases h : cs.dropWhile isSpace with
  | nil => simp
  | cons c r => by_cases hc : c = '"' <;> simp [hc, advance]

/-! ## Words -/

theorem ident_eq_ok {word : List Char} : ident word cs = .ok ((), rest) ↔ cs = word ++ rest := by
  induction word generalizing cs with
  | nil => simp [ident]
  | cons x word ih =>
    cases cs with
    | nil => simp [ident]
    | cons c cs => by_cases h : x = c <;> simp [ident, h, ih, eq_comm (a := c)]

theorem ident_bind_eq_ok {word : List Char} {f : Unit → Reader β} {b : β} :
    (ident word >>= f) cs = .ok (b, rest) ↔ ∃ mid, cs = word ++ mid ∧ f () mid = .ok (b, rest) := by
  simp only [unit_bind_eq_ok, ident_eq_ok]

end HookGate.Json.Reader
