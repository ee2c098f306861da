import HookGate.Proofs.Json.Strings

/-!
# The grammar of JSON texts

Relations between a text and what stands behind its beginning. A value is `Written` where it nests
less deep than a bound and its numbers are in range; a text is `Passed` where only its form counts.
-/

namespace HookGate.Json

open Reader (isSpace isDigit simpleEscape? hexValue4? isLead isTrail Bare)

/-- The first character that is not blank, with what stands behind it. -/
def Next (c : Char) (cs rest : List Char) : Prop := cs.dropWhile isSpace = c :: rest

/-! ## Strings -/

/-- The escape of a character, behind its backslash. -/
inductive Escape : List Char → Char → List Char → Prop
  | short {e c rest} (h : simpleEscape? e = some c) : Escape (e :: rest) c rest
  | unit {a b c d n rest} (h : hexValue4? a b c d = some n) (hlead : isLead n = false)
      (htrail : isTrail n = false) : Escape ('u' :: a :: b :: c :: d :: rest) (Char.ofNat n) rest
  | pair {a b c d n a' b' c' d' m rest} (hn : hexValue4? a b c d = some n) (hlead : isLead n = true)
      (hm : hexValue4? a' b' c' d' = some m) (htrail : isTrail m = true) :
      Escape ('u' :: a :: b :: c :: d :: '\\' :: 'u' :: a' :: b' :: c' :: d' :: rest)
        (Char.ofNat ((n - 0xD800) * 0x400 + (m - 0xDC00) + 0x10000)) rest

/-- The characters of a string, behind its opening quote and up to the closing one. -/
inductive Spelled : List Char → List Char → List Char → Prop
  | close {rest} : Spelled ('"' :: rest) [] rest
  | bare {c cs s rest} (h : Bare c) : Spelled cs s rest → Spelled (c :: cs) (c :: s) rest
  | escape {cs c cs' s rest} (h : Escape cs c cs') :
      Spelled cs' s rest → Spelled ('\\' :: cs) (c :: s) rest

/-- The form of an escape, where halves of pairs may stand alone. -/
inductive LooseEscape : List Char → List Char → Prop
  | short {e rest} (h : (simpleEscape? e).isSome = true) : LooseEscape (e :: rest) rest
  | unit {a b c d rest} (h : (hexValue4? a b c d).isSome = true) :
      LooseEscape ('u' :: a :: b :: c :: d :: rest) rest

/-- The form of a string, behind its opening quote. -/
inductive LooselySpelled : List Char → List Char → Prop
  | close {rest} : LooselySpelled ('"' :: rest) rest
  | bare {c cs rest} (h : Bare c) : LooselySpelled cs rest → LooselySpelled (c :: cs) rest
  | escape {cs cs' rest} (h : LooseEscape cs cs') :
      LooselySpelled cs' rest → LooselySpelled ('\\' :: cs) rest

/-! ## Numbers -/

/-- As many digits as there are, and at least one. -/
def Digits (cs rest : List Char) : Prop := cs.takeWhile isDigit ≠ [] ∧ cs.dropWhile isDigit = rest

/-- A zero that no digit follows, or digits that do not begin with one. -/
inductive Whole : List Char → List Char → Prop
  | zero {rest} (h : ∀ c ∈ rest.head?, isDigit c = false) : Whole ('0' :: rest) rest
  | digits {c cs rest} (hc : c ≠ '0') (h : Digits (c :: cs) rest) : Whole (c :: cs) rest

inductive Fraction : List Char → List Char → Prop
  | none {cs} (h : cs.head? ≠ some '.') : Fraction cs cs
  | some {cs rest} (h : Digits cs rest) : Fraction ('.' :: cs) rest

def IsExponentMark (c : Char) : Prop := c = 'e' ∨ c = 'E'

inductive Exponent : List Char → List Char → Prop
  | none {cs} (h : ∀ c ∈ cs.head?, ¬ IsExponentMark c) : Exponent cs cs
  | bare {c cs rest} (hc : IsExponentMark c) (h : Digits cs rest) : Exponent (c :: cs) rest
  | signed {c sign cs rest} (hc : IsExponentMark c) (hsign : sign = '+' ∨ sign = '-')
      (h : Digits cs rest) : Exponent (c :: sign :: cs) rest

/-- A number behind its sign. -/
def Numeral (cs rest : List Char) : Prop :=
  ∃ whole fraction, Whole cs whole ∧ Fraction whole fraction ∧ Exponent fraction rest

/-! ## Values -/

/-- A word, behind its first letter. -/
inductive Word : Char → List Char → Value → List Char → Prop
  | null {rest} : Word 'n' ('u' :: 'l' :: 'l' :: rest) .null rest
  | yes {rest} : Word 't' ('r' :: 'u' :: 'e' :: rest) (.bool true) rest
  | no {rest} : Word 'f' ('a' :: 'l' :: 's' :: 'e' :: rest) (.bool false) rest

/-- A word, a number or a string, behind its first character. -/
inductive Scalar : Char → List Char → Value → List Char → Prop
  | word {c cs v rest} (h : Word c cs v rest) : Scalar c cs v rest
  | string {cs s rest} (h : Spelled cs s rest) : Scalar '"' cs (.string (String.ofList s)) rest
  | positive {c cs n rest} (hc : isDigit c = true) (h : Numeral (c :: cs) rest)
      (hrange : Reader.number true (c :: cs) = .ok (n, rest)) : Scalar c cs (.number n) rest
  | negative {cs n rest} (h : Numeral cs rest) (hrange : Reader.number false cs = .ok (n, rest)) :
      Scalar '-' cs (.number n) rest

/-- What stands in front of an item or a member: nothing at first, then a comma. -/
inductive Separated : Bool → List Char → List Char → Prop
  | first {cs} : Separated true cs cs
  | comma {cs cs'} (h : Next ',' cs cs') : Separated false cs cs'

/-- The members of an object as they are written, put in order; the last one of a name counts. -/
def Value.ofMembers (ms : List (String × Value)) : Value :=
  .object (ms.foldl (fun seen m => Value.insert m.1 m.2 seen) [])

mutual

/-- A value that nests less deep than a bound. -/
inductive Written : Nat → List Char → Value → List Char → Prop
  | scalar {n c cs cs' v rest} (hnext : Next c cs cs') (h : Scalar c cs' v rest) : Written n cs v rest
  | array {n cs cs' vs rest} (hn : 0 < n) (hnext : Next '[' cs cs')
      (h : WrittenItems n true cs' vs rest) : Written (n + 1) cs (.array vs) rest
  | object {n cs cs' ms rest} (hn : 0 < n) (hnext : Next '\x7b' cs cs')
      (h : WrittenMembers n true cs' ms rest) : Written (n + 1) cs (.ofMembers ms) rest

/-- The items of a list, up to its closing bracket. -/
inductive WrittenItems : Nat → Bool → List Char → List Value → List Char → Prop
  | nil {n first cs rest} (hnext : Next ']' cs rest) : WrittenItems n first cs [] rest
  | cons {n first cs cs₁ v cs₂ vs rest} (hfirst : Separated first cs cs₁) (h : Written n cs₁ v cs₂)
      (hrest : WrittenItems n false cs₂ vs rest) : WrittenItems n first cs (v :: vs) rest

/-- The members of an object, up to its closing brace. -/
inductive WrittenMembers : Nat → Bool → List Char → List (String × Value) → List Char → Prop
  | nil {n first cs rest} (hnext : Next '\x7d' cs rest) : WrittenMembers n first cs [] rest
  | cons {n first cs cs₁ cs₂ name cs₃ cs₄ v cs₅ ms rest} (hfirst : Separated first cs cs₁)
      (hquote : Next '"' cs₁ cs₂) (hname : Spelled cs₂ name cs₃) (hcolon : Next ':' cs₃ cs₄)
      (h : Written n cs₄ v cs₅) (hrest : WrittenMembers n false cs₅ ms rest) :
      WrittenMembers n first cs ((String.ofList name, v) :: ms) rest

end

/-! ## Texts of which only the form counts -/

inductive LooseScalar : Char → List Char → List Char → Prop
  | word {c cs v rest} (h : Word c cs v rest) : LooseScalar c cs rest
  | string {cs rest} (h : LooselySpelled cs rest) : LooseScalar '"' cs rest
  | positive {c cs rest} (hc : isDigit c = true) (h : Numeral (c :: cs) rest) : LooseScalar c cs rest
  | negative {cs rest} (h : Numeral cs rest) : LooseScalar '-' cs rest

mutual

/-- The form of a value of any depth. -/
inductive Passed : List Char → List Char → Prop
  | scalar {c cs cs' rest} (hnext : Next c cs cs') (h : LooseScalar c cs' rest) : Passed cs rest
  | array {cs cs' rest} (hnext : Next '[' cs cs') (h : PassedItems true cs' rest) : Passed cs rest
  | object {cs cs' rest} (hnext : Next '\x7b' cs cs') (h : PassedMembers true cs' rest) :
      Passed cs rest

inductive PassedItems : Bool → List Char → List Char → Prop
  | nil {first cs rest} (hnext : Next ']' cs rest) : PassedItems first cs rest
  | cons {first cs cs₁ cs₂ rest} (hfirst : Separated first cs cs₁) (h : Passed cs₁ cs₂)
      (hrest : PassedItems false cs₂ rest) : PassedItems first cs rest

inductive PassedMembers : Bool → List Char → List Char → Prop
  | nil {first cs rest} (hnext : Next '\x7d' cs rest) : PassedMembers first cs rest
  | cons {first cs cs₁ cs₂ cs₃ cs₄ cs₅ rest} (hfirst : Separated first cs cs₁)
      (hquote : Next '"' cs₁ cs₂) (hname : LooselySpelled cs₂ cs₃) (hcolon : Next ':' cs₃ cs₄)
      (h : Passed cs₄ cs₅) (hrest : PassedMembers false cs₅ rest) : PassedMembers first cs rest

end

/-! ## Records -/

section Records

variable {α : Type}

/-- The members of an object, up to its closing brace: for a name that is known, a value of the form
that goes with the name. What stands for other names is passed over. -/
inductive Members (names : List String) (Form : String → List Char → α → List Char → Prop) :
    Bool → List Char → List (String × α) → List Char → Prop
  | nil {first cs rest} (hnext : Next '\x7d' cs rest) : Members names Form first cs [] rest
  | known {first cs cs₁ cs₂ name cs₃ cs₄ a cs₅ ms rest} (hfirst : Separated first cs cs₁)
      (hquote : Next '"' cs₁ cs₂) (hname : Spelled cs₂ name cs₃) (hknown : String.ofList name ∈ names)
      (hcolon : Next ':' cs₃ cs₄) (h : Form (String.ofList name) cs₄ a cs₅)
      (hrest : Members names Form false cs₅ ms rest) :
      Members names Form first cs ((String.ofList name, a) :: ms) rest
  | other {first cs cs₁ cs₂ name cs₃ cs₄ cs₅ ms rest} (hfirst : Separated first cs cs₁)
      (hquote : Next '"' cs₁ cs₂) (hname : Spelled cs₂ name cs₃) (hother : String.ofList name ∉ names)
      (hcolon : Next ':' cs₃ cs₄) (h : Passed cs₄ cs₅)
      (hrest : Members names Form false cs₅ ms rest) : Members names Form first cs ms rest

/-- The items of a list, up to its closing bracket, each of the form that goes with its name: names
are given to them in order, and may be left over. -/
inductive Items (Form : String → List Char → α → List Char → Prop) :
    List String → Bool → List Char → List (String × α) → List Char → Prop
  | nil {names first cs rest} (hnext : Next ']' cs rest) : Items Form names first cs [] rest
  | cons {name names first cs cs₁ a cs₂ ms rest} (hfirst : Separated first cs cs₁)
      (h : Form name cs₁ a cs₂) (hrest : Items Form names false cs₂ ms rest) :
      Items Form (name :: names) first cs ((name, a) :: ms) rest

/-- A record: the members of an object, or a list of its fields in order. No name stands twice. -/
inductive Record (names : List String) (Form : String → List Char → α → List Char → Prop) :
    List Char → List (String × α) → List Char → Prop
  | object {cs cs' ms rest} (hnext : Next '\x7b' cs cs') (h : Members names Form true cs' ms rest)
      (hdistinct : (ms.map Prod.fst).Nodup) : Record names Form cs ms rest
  | list {cs cs' ms rest} (hnext : Next '[' cs cs') (h : Items Form names true cs' ms rest) :
      Record names Form cs ms rest

/-- Nothing but blanks. -/
def Ended (cs : List Char) : Prop := ∀ c ∈ cs, isSpace c = true

/-- A text that holds a record and nothing else. -/
def RecordText (names : List String) (Form : String → List Char → α → List Char → Prop)
    (text : String) (ms : List (String × α)) : Prop :=
  ∃ rest, Record names Form text.toList ms rest ∧ Ended rest

end Records

/-! ## What is left is shorter -/

section Length

variable {cs rest : List Char}

theorem Next.length_lt {c : Char} (h : Next c cs rest) : rest.length < cs.length := by
  have hlen := (List.dropWhile_suffix (p := isSpace) (l := cs)).length_le
  rw [Next] at h
  rw [h, List.length_cons] at hlen
  omega

theorem Escape.suffix {x : Char} (h : Escape cs x rest) : rest <:+ cs := by
  cases h with
  | @short e => exact ⟨[e], rfl⟩
  | @unit a b c d => exact ⟨['u', a, b, c, d], rfl⟩
  | @pair a b c d _ a' b' c' d' => exact ⟨['u', a, b, c, d, '\\', 'u', a', b', c', d'], rfl⟩

theorem Spelled.length_lt {t : List Char} (h : Spelled cs t rest) : rest.length < cs.length := by
  induction h with
  | close => simp
  | bare _ _ ih => exact Nat.lt_succ_of_lt ih
  | escape hescape _ ih =>
    have := hescape.suffix.length_le
    rw [List.length_cons]
    omega

theorem LooseEscape.suffix (h : LooseEscape cs rest) : rest <:+ cs := by
  cases h with
  | @short e => exact ⟨[e], rfl⟩
  | @unit a b c d => exact ⟨['u', a, b, c, d], rfl⟩

theorem LooselySpelled.length_lt (h : LooselySpelled cs rest) : rest.length < cs.length := by
  induction h with
  | close => simp
  | bare _ _ ih => exact Nat.lt_succ_of_lt ih
  | escape hescape _ ih =>
    have := hescape.suffix.length_le
    rw [List.length_cons]
    omega

theorem Digits.length_lt (h : Digits cs rest) : rest.length < cs.length := by
  obtain ⟨hsome, rfl⟩ := h
  have hsplit := congrArg List.length (List.takeWhile_append_dropWhile (p := isDigit) (l := cs))
  have hpos := List.length_pos_iff.mpr hsome
  rw [List.length_append] at hsplit
  omega

theorem Numeral.length_lt (h : Numeral cs rest) : rest.length < cs.length := by
  obtain ⟨whole, fraction, hwhole, hfraction, hexponent⟩ := h
  have h₁ : whole.length < cs.length := by
    cases hwhole with
    | zero => simp
    | digits _ h => exact h.length_lt
  have h₂ : fraction.length ≤ whole.length := by
    cases hfraction with
    | none => exact le_rfl
    | some h => exact (Nat.lt_succ_of_lt h.length_lt).le
  have h₃ : rest.length ≤ fraction.length := by
    cases hexponent with
    | none => exact le_rfl
    | bare _ h => exact (Nat.lt_succ_of_lt h.length_lt).le
    | signed _ _ h =>
      have := h.length_lt
      simp only [List.length_cons]
      omega
  omega

theorem Word.length_lt {c : Char} {v : Value} (h : Word c cs v rest) : rest.length < cs.length := by
  cases h <;> simp only [List.length_cons] <;> omega

/-- The first character of a number belongs to the number, so nothing else need be taken off. -/
theorem Scalar.length_le {c : Char} {v : Value} (h : Scalar c cs v rest) :
    rest.length ≤ cs.length := by
  cases h with
  | word h => exact h.length_lt.le
  | string h => exact h.length_lt.le
  | positive _ h => exact Nat.le_of_lt_succ h.length_lt
  | negative h => exact h.length_lt.le

theorem LooseScalar.length_le {c : Char} (h : LooseScalar c cs rest) :
    rest.length ≤ cs.length := by
  cases h with
  | word h => exact h.length_lt.le
  | string h => exact h.length_lt.le
  | positive _ h => exact Nat.le_of_lt_succ h.length_lt
  | negative h => exact h.length_lt.le

theorem Separated.length_le {first : Bool} (h : Separated first cs rest) :
    rest.length ≤ cs.length := by
  cases h with
  | first => exact le_rfl
  | comma h => exact h.length_lt.le

mutual

theorem Written.length_lt {n : Nat} {cs : List Char} {v : Value} {rest : List Char} :
    Written n cs v rest → rest.length < cs.length
  | .scalar hnext h => lt_of_le_of_lt h.length_le hnext.length_lt
  | .array _ hnext h => h.length_lt.trans hnext.length_lt
  | .object _ hnext h => h.length_lt.trans hnext.length_lt

theorem WrittenItems.length_lt {n : Nat} {first : Bool} {cs : List Char} {vs : List Value}
    {rest : List Char} : WrittenItems n first cs vs rest → rest.length < cs.length
  | .nil hnext => hnext.length_lt
  | .cons hfirst h hrest => (hrest.length_lt.trans h.length_lt).trans_le hfirst.length_le

theorem WrittenMembers.length_lt {n : Nat} {first : Bool} {cs : List Char}
    {ms : List (String × Value)} {rest : List Char} :
    WrittenMembers n first cs ms rest → rest.length < cs.length
  | .nil hnext => hnext.length_lt
  | .cons hfirst hquote hname hcolon h hrest =>
    ((hrest.length_lt.trans h.length_lt).trans (hcolon.length_lt.trans
      (hname.length_lt.trans hquote.length_lt))).trans_le hfirst.length_le

end

mutual

theorem Passed.length_lt {cs rest : List Char} : Passed cs rest → rest.length < cs.length
  | .scalar hnext h => lt_of_le_of_lt h.length_le hnext.length_lt
  | .array hnext h => h.length_lt.trans hnext.length_lt
  | .object hnext h => h.length_lt.trans hnext.length_lt

theorem PassedItems.length_lt {first : Bool} {cs rest : List Char} :
    PassedItems first cs rest → rest.length < cs.length
  | .nil hnext => hnext.length_lt
  | .cons hfirst h hrest => (hrest.length_lt.trans h.length_lt).trans_le hfirst.length_le

theorem PassedMembers.length_lt {first : Bool} {cs rest : List Char} :
    PassedMembers first cs rest → rest.length < cs.length
  | .nil hnext => hnext.length_lt
  | .cons hfirst hquote hname hcolon h hrest =>
    ((hrest.length_lt.trans h.length_lt).trans (hcolon.length_lt.trans
      (hname.length_lt.trans hquote.length_lt))).trans_le hfirst.length_le

end

end Length

/-! ## The fields of a record -/

section Fields

variable {α : Type} {names : List String} {Form : String → List Char → α → List Char → Prop}
  {first : Bool} {cs : List Char} {ms : List (String × α)} {rest : List Char}

theorem Members.mem_names (h : Members names Form first cs ms rest) :
    ∀ name ∈ ms.map Prod.fst, name ∈ names := by
  induction h with
  | nil => simp
  | known _ _ _ hknown _ _ _ ih => simpa using ⟨hknown, by simpa using ih⟩
  | other _ _ _ _ _ _ _ ih => exact ih

theorem Items.length_le (h : Items Form names first cs ms rest) : ms.length ≤ names.length := by
  induction h with
  | nil => simp
  | cons _ _ _ ih => simpa using ih

/-- A record has no more fields than there are names. -/
theorem Record.length_le (h : Record names Form cs ms rest) : ms.length ≤ names.length := by
  cases h with
  | object _ h hdistinct => simpa using (hdistinct.subperm h.mem_names).length_le
  | list _ h => exact h.length_le

theorem Items.map_fst_prefix (h : Items Form names first cs ms rest) : ms.map Prod.fst <+: names := by
  induction h with
  | nil => exact List.nil_prefix
  | cons _ _ _ ih => exact (List.prefix_cons_inj _).mpr ih

/-- No field of a record stands twice. -/
theorem Record.nodup (h : Record names Form cs ms rest) (hnames : names.Nodup) :
    (ms.map Prod.fst).Nodup := by
  cases h with
  | object _ _ hdistinct => exact hdistinct
  | list _ h => exact hnames.sublist h.map_fst_prefix.sublist

theorem Members.exists_form (h : Members names Form first cs ms rest) :
    ∀ m ∈ ms, ∃ cs rest, Form m.1 cs m.2 rest := by
  induction h with
  | nil => exact nofun
  | known _ _ _ _ _ h _ ih => exact List.forall_mem_cons.mpr ⟨⟨_, _, h⟩, ih⟩
  | other _ _ _ _ _ _ _ ih => exact ih

theorem Items.exists_form (h : Items Form names first cs ms rest) :
    ∀ m ∈ ms, ∃ cs rest, Form m.1 cs m.2 rest := by
  induction h with
  | nil => exact nofun
  | cons _ h _ ih => exact List.forall_mem_cons.mpr ⟨⟨_, _, h⟩, ih⟩

theorem Record.exists_form (h : Record names Form cs ms rest) :
    ∀ m ∈ ms, ∃ cs rest, Form m.1 cs m.2 rest := by
  cases h with
  | object _ h => exact h.exists_form
  | list _ h => exact h.exists_form

end Fields

/-! ## How values begin -/

theorem Next.congr {c : Char} {cs cs' rest : List Char}
    (hsame : cs.dropWhile isSpace = cs'.dropWhile isSpace) (h : Next c cs rest) : Next c cs' rest :=
  hsame.symm.trans h

/-- Blanks in front of a value are no part of it. -/
theorem Passed.congr {cs cs' rest : List Char}
    (hsame : cs.dropWhile isSpace = cs'.dropWhile isSpace) (h : Passed cs rest) : Passed cs' rest := by
  cases h with
  | scalar hnext h => exact .scalar (hnext.congr hsame) h
  | array hnext h => exact .array (hnext.congr hsame) h
  | object hnext h => exact .object (hnext.congr hsame) h

theorem Written.congr {n : Nat} {cs cs' : List Char} {v : Value} {rest : List Char}
    (hsame : cs.dropWhile isSpace = cs'.dropWhile isSpace) (h : Written n cs v rest) :
    Written n cs' v rest := by
  cases h with
  | scalar hnext h => exact .scalar (hnext.congr hsame) h
  | array hn hnext h => exact .array hn (hnext.congr hsame) h
  | object hn hnext h => exact .object hn (hnext.congr hsame) h

theorem Separated.next {first : Bool} {cs cs' : List Char} {d : Char} (hd : ',' ≠ d)
    (h : Separated first cs cs') (hnext : ∃ c r, Next c cs' r ∧ c ≠ d) :
    ∃ c r, Next c cs r ∧ c ≠ d := by
  cases h with
  | first => exact hnext
  | comma hcomma => exact ⟨',', cs', hcomma, hd⟩

theorem Scalar.ne_closing {c : Char} {cs : List Char} {v : Value} {rest : List Char}
    (h : Scalar c cs v rest) : c ≠ ']' := by
  rintro rfl
  cases h with
  | word h => cases h
  | positive hc => contradiction

theorem LooseScalar.ne_closing {c : Char} {cs rest : List Char} (h : LooseScalar c cs rest) :
    c ≠ ']' := by
  rintro rfl
  cases h with
  | word h => cases h
  | positive hc => contradiction

theorem Passed.next {cs rest : List Char} (h : Passed cs rest) : ∃ c r, Next c cs r ∧ c ≠ ']' := by
  cases h with
  | scalar hnext h => exact ⟨_, _, hnext, h.ne_closing⟩
  | array hnext => exact ⟨_, _, hnext, by decide⟩
  | object hnext => exact ⟨_, _, hnext, by decide⟩

theorem Written.next {n : Nat} {cs : List Char} {v : Value} {rest : List Char}
    (h : Written n cs v rest) : ∃ c r, Next c cs r ∧ c ≠ ']' := by
  cases h with
  | scalar hnext h => exact ⟨_, _, hnext, h.ne_closing⟩
  | array _ hnext => exact ⟨_, _, hnext, by decide⟩
  | object _ hnext => exact ⟨_, _, hnext, by decide⟩

/-- A value that begins like `null` is `null`. -/
theorem Next.eq_null {n : Nat} {cs r rest : List Char} {v : Value}
    (hnext : Next 'n' cs r) (h : Written n cs v rest) : v = .null ∧ r = 'u' :: 'l' :: 'l' :: rest := by
  cases h with
  | @scalar _ c _ r' _ _ hnext' h =>
    obtain ⟨rfl, rfl⟩ : c = 'n' ∧ r' = r := by simpa using hnext'.symm.trans hnext
    cases h with
    | word h =>
      cases h
      exact ⟨rfl, rfl⟩
    | positive hc => contradiction
  | array _ hnext' => simpa using hnext'.symm.trans hnext
  | object _ hnext' => simpa using hnext'.symm.trans hnext

theorem Written.next_null {n : Nat} {cs rest : List Char} (h : Written n cs .null rest) :
    ∃ r, Next 'n' cs r := by
  generalize hv : Value.null = v at h
  cases h with
  | scalar hnext h =>
    cases h with
    | word h => cases h <;> first | exact ⟨_, hnext⟩ | contradiction
    | string | positive | negative => contradiction
  | array => contradiction
  | object => simp [Value.ofMembers] at hv

/-! ## Texts that hold something -/

theorem Next.mem {c : Char} {cs rest : List Char} (h : Next c cs rest) : c ∈ cs := by
  have hmem : c ∈ cs.dropWhile isSpace := by
    rw [h]
    exact List.mem_cons_self
  exact (List.dropWhile_suffix isSpace).subset hmem

theorem RecordText.not_isBlankText {α : Type} {names : List String}
    {Form : String → List Char → α → List Char → Prop} {text : String} {ms : List (String × α)}
    (h : RecordText names Form text ms) : Text.isBlankText text = false := by
  obtain ⟨rest, hrecord, -⟩ := h
  rw [Text.isBlankText, List.all_eq_false]
  cases hrecord with
  | object hnext => exact ⟨_, hnext.mem, by decide⟩
  | list hnext => exact ⟨_, hnext.mem, by decide⟩

end HookGate.Json
