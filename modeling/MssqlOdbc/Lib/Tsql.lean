import Mathlib.Algebra.Ring.Nat
import Mathlib.Data.Int.Notation
import MssqlOdbc.Lib.Quoting

/-!
# The lexer of T-SQL

Words, numbers, binary literals, symbols, and texts between delimiters: identifiers in brackets or
double quotes, and string literals with or without the national prefix.  Comments are skipped.  Two
things a server does besides are left out: a backslash at the end of a line continues a literal on
the next one, and a literal without the national prefix is converted to the code page of the
database, which may lose characters.

The lexer is a machine that reads one character at a time.  `Reads` is what it does on a piece of
text; pieces are put together by `Reads.append`, and `reads_quoted` says that a text whose closing
delimiters are doubled stays inside its delimiters to the end.
-/

set_option autoImplicit false

namespace Tsql

open Quoting

/-! ## Tokens -/

/-- What a text stands between. -/
inductive Delimiter where
  | bracket
  | doubleQuote
  | quote
  /-- The quotes of `N'...'`. -/
  | national
deriving DecidableEq, Repr

def Delimiter.close : Delimiter → Char
  | .bracket => ']'
  | .doubleQuote => '"'
  | .quote | .national => '\''

inductive Token where
  | word (text : String)
  | number (value : ℕ)
  | binary (bytes : List UInt8)
  | delimited (delimiter : Delimiter) (text : String)
  | symbol (c : Char)
  /-- A text without its closing delimiter, or a comment without its end. -/
  | unterminated
deriving DecidableEq, Repr

/-! ## Binary literals -/

/-- The value of a hexadecimal digit. -/
def hexValue (c : Char) : ℕ :=
  if c.isDigit then c.toNat - '0'.toNat
  else if c.toNat ≤ 'F'.toNat then c.toNat - 'A'.toNat + 10 else c.toNat - 'a'.toNat + 10

def isHexDigit (c : Char) : Bool :=
  c.isDigit || ('A'.toNat ≤ c.toNat && c.toNat ≤ 'F'.toNat) ||
    ('a'.toNat ≤ c.toNat && c.toNat ≤ 'f'.toNat)

/-- The bytes of pairs of digits. -/
def hexPairs : List Char → List UInt8
  | high :: low :: digits => UInt8.ofNat (16 * hexValue high + hexValue low) :: hexPairs digits
  | _ => []

/-- The bytes of a literal; an odd number of digits is taken to begin with a zero. -/
def hexBytes (digits : List Char) : List UInt8 :=
  hexPairs (if digits.length % 2 = 0 then digits else '0' :: digits)

/-! ## The machine -/

inductive State where
  | start
  | word (text : List Char)
  | number (digits : List Char)
  | binary (digits : List Char)
  /-- Between delimiters. -/
  | inside (delimiter : Delimiter) (text : List Char)
  /-- Behind what may be a closing delimiter, or the first of two. -/
  | closing (delimiter : Delimiter) (text : List Char)
  | dash
  | slash
  | lineComment
  /-- In that many nested comments, and behind a character that may begin a mark. -/
  | comment (depth : ℕ) (last : Char)
deriving DecidableEq, Repr

def isSpace (c : Char) : Bool := c.isWhitespace

def isWordStart (c : Char) : Bool :=
  c.isAlpha || c == '_' || c == '@' || c == '#' || decide (127 < c.toNat)

def isWordChar (c : Char) : Bool := isWordStart c || c.isDigit || c == '$'

/-- The state after the first character of a token. -/
def begin (c : Char) : State × List Token :=
  if c.isDigit then (.number [c], [])
  else if isSpace c then (.start, [])
  else if isWordStart c then (.word [c], [])
  else if c = '[' then (.inside .bracket [], [])
  else if c = '"' then (.inside .doubleQuote [], [])
  else if c = '\'' then (.inside .quote [], [])
  else if c = '-' then (.dash, [])
  else if c = '/' then (.slash, [])
  else (.start, [.symbol c])

/-- A token is over, and another one begins. -/
def emit (token : Token) (next : State × List Token) : State × List Token :=
  (next.1, token :: next.2)

def step : State → Char → State × List Token
  | .start, c => begin c
  | .word text, c =>
    if isWordChar c then (.word (text ++ [c]), [])
    else if c = '\'' ∧ (text = ['N'] ∨ text = ['n']) then (.inside .national [], [])
    else emit (.word (String.ofList text)) (begin c)
  | .number digits, c =>
    if c.isDigit then (.number (digits ++ [c]), [])
    else if (c = 'x' ∨ c = 'X') ∧ digits = ['0'] then (.binary [], [])
    else emit (.number (Nat.ofDigitChars 10 digits 0)) (begin c)
  | .binary digits, c =>
    if isHexDigit c then (.binary (digits ++ [c]), [])
    else emit (.binary (hexBytes digits)) (begin c)
  | .inside d text, c =>
    if c = d.close then (.closing d text, []) else (.inside d (text ++ [c]), [])
  | .closing d text, c =>
    if c = d.close then (.inside d (text ++ [c]), [])
    else emit (.delimited d (String.ofList text)) (begin c)
  | .dash, c => if c = '-' then (.lineComment, []) else emit (.symbol '-') (begin c)
  | .slash, c => if c = '*' then (.comment 1 ' ', []) else emit (.symbol '/') (begin c)
  | .lineComment, c => if c = '\n' then (.start, []) else (.lineComment, [])
  | .comment depth last, c =>
    if last = '*' ∧ c = '/' then
      if depth ≤ 1 then (.start, []) else (.comment (depth - 1) ' ', [])
    else if last = '/' ∧ c = '*' then (.comment (depth + 1) ' ', [])
    else (.comment depth c, [])

/-- The token that the end of the text completes. -/
def finish : State → List Token
  | .start | .lineComment => []
  | .word text => [.word (String.ofList text)]
  | .number digits => [.number (Nat.ofDigitChars 10 digits 0)]
  | .binary digits => [.binary (hexBytes digits)]
  | .inside _ _ | .comment _ _ => [.unterminated]
  | .closing d text => [.delimited d (String.ofList text)]
  | .dash => [.symbol '-']
  | .slash => [.symbol '/']

def run : State → List Char → State × List Token
  | s, [] => (s, [])
  | s, c :: text =>
    let (s', tokens) := step s c
    let (s'', tokens') := run s' text
    (s'', tokens ++ tokens')

/-- The tokens of a text. -/
def lex (text : String) : List Token :=
  let (s, tokens) := run .start text.toList
  tokens ++ finish s

/-! ## Reading in pieces -/

/-- The machine reads the text from one state to another, and the tokens are complete by then. -/
def Reads (s : State) (text : List Char) (s' : State) (tokens : List Token) : Prop :=
  run s text = (s', tokens)

instance (s : State) (text : List Char) (s' : State) (tokens : List Token) :
    Decidable (Reads s text s' tokens) := inferInstanceAs (Decidable (run s text = (s', tokens)))

namespace Reads

variable {s s' s'' : State} {text text' : List Char} {tokens tokens' : List Token}

theorem nil (s : State) : Reads s [] s [] := rfl

theorem cons {c : Char} (hstep : step s c = (s', tokens)) (h : Reads s' text s'' tokens') :
    Reads s (c :: text) s'' (tokens ++ tokens') := by
  rw [Reads] at h
  rw [Reads, run, hstep]
  dsimp only
  rw [h]

theorem append (h : Reads s text s' tokens) (h' : Reads s' text' s'' tokens') :
    Reads s (text ++ text') s'' (tokens ++ tokens') := by
  induction text generalizing s tokens with
  | nil =>
    cases h
    exact h'
  | cons c text ih =>
    rw [Reads, run] at h
    cases hstep : step s c with
    | mk t out =>
      rw [hstep] at h
      cases hrest : run t text with
      | mk t' out' =>
        dsimp only at h
        rw [hrest] at h
        cases h
        rw [List.cons_append, List.append_assoc]
        exact cons hstep (ih hrest)

/-- A character that does not go on with a token completes it. -/
theorem emit {c : Char} {token : Token} (hhead : text.head? = some c)
    (hstep : step s c = emit token (begin c)) (h : Reads .start text s' tokens) :
    Reads s text s' (token :: tokens) := by
  obtain ⟨rest, rfl⟩ := List.head?_eq_some_iff.1 hhead
  rw [Reads, run] at h ⊢
  rw [hstep]
  change (_, (begin c).2 ++ _) = _ at h
  cases h
  rfl

theorem lex {text : String} (h : Reads .start text.toList s tokens) :
    lex text = tokens ++ finish s := by
  rw [Reads] at h
  rw [Tsql.lex, h]

/-- A text that ends with a delimited name. -/
theorem lex_delimited {d : Delimiter} {head text last name : String}
    (hhead : Reads .start head.toList (.inside d []) tokens)
    (htext : Reads (.inside d []) text.toList (.inside d name.toList) [])
    (hlast : last.toList = [d.close]) :
    Tsql.lex (head ++ text ++ last) = tokens ++ [.delimited d name] := by
  have hclose : Reads (.inside d name.toList) last.toList (.closing d name.toList) [] := by
    have hstep : step (.inside d name.toList) d.close = (.closing d name.toList, []) := if_pos rfl
    rw [hlast]
    exact cons hstep (nil _)
  have h := (hhead.append htext).append hclose
  simp only [← String.toList_append, List.append_nil] at h
  rw [h.lex, finish, String.ofList_toList]

end Reads

/-! ## Texts, numbers and binary literals -/

/-- **A text with its closing delimiters doubled stays inside.** -/
theorem reads_double (d : Delimiter) (text before : List Char) :
    Reads (.inside d before) (double d.close text) (.inside d (before ++ text)) [] := by
  induction text generalizing before with
  | nil =>
    rw [List.append_nil]
    exact .nil _
  | cons c text ih =>
    have hinside := ih (before ++ [c])
    rw [List.append_assoc, List.singleton_append] at hinside
    by_cases hc : c = d.close
    · subst hc
      have hfirst : step (.inside d before) d.close = (.closing d before, []) := if_pos rfl
      have hsecond : step (.closing d before) d.close = (.inside d (before ++ [d.close]), []) :=
        if_pos rfl
      rw [double_cons_self]
      exact .cons hfirst (.cons hsecond hinside)
    · have hstep : step (.inside d before) c = (.inside d (before ++ [c]), []) := if_neg hc
      rw [double_cons_of_ne hc]
      exact .cons hstep hinside

/-- So does a text without closing delimiters. -/
theorem reads_plain {d : Delimiter} {text : List Char} (h : d.close ∉ text) (before : List Char) :
    Reads (.inside d before) text (.inside d (before ++ text)) [] := by
  have hdouble := reads_double d text before
  rwa [double_of_not_mem h] at hdouble

/-- A token whose characters are told by a test is read to its end. -/
theorem reads_while (state : List Char → State) {test : Char → Bool}
    (hstep : ∀ before c, test c = true → step (state before) c = (state (before ++ [c]), []))
    {text : List Char} (h : ∀ c ∈ text, test c = true) (before : List Char) :
    Reads (state before) text (state (before ++ text)) [] := by
  induction text generalizing before with
  | nil =>
    rw [List.append_nil]
    exact .nil _
  | cons c text ih =>
    obtain ⟨hc, htext⟩ := List.forall_mem_cons.1 h
    have hrest := ih htext (before ++ [c])
    rw [List.append_assoc, List.singleton_append] at hrest
    exact .cons (hstep before c hc) hrest

theorem step_closing {d : Delimiter} {c : Char} (h : c ≠ d.close) (text : List Char) :
    step (.closing d text) c = emit (.delimited d (String.ofList text)) (begin c) :=
  if_neg h

theorem step_number {c : Char} (h : c.isDigit = false ∧ c ≠ 'x' ∧ c ≠ 'X') (digits : List Char) :
    step (.number digits) c = emit (.number (Nat.ofDigitChars 10 digits 0)) (begin c) := by
  rw [step, if_neg (by simp [h.1]), if_neg (by simp [h.2])]

/-- A numeral. -/
theorem reads_toDigits (n : ℕ) :
    Reads .start (Nat.toDigits 10 n) (.number (Nat.toDigits 10 n)) [] := by
  have hdigits : ∀ c ∈ Nat.toDigits 10 n, c.isDigit = true :=
    fun c hc ↦ Nat.isDigit_of_mem_toDigits (by decide) (by decide) hc
  obtain ⟨c, digits, heq⟩ := List.exists_cons_of_ne_nil (Nat.toDigits_ne_nil (n := n) (b := 10))
  rw [heq] at hdigits ⊢
  obtain ⟨hc, hrest⟩ := List.forall_mem_cons.1 hdigits
  have hstep : step .start c = (.number [c], []) := if_pos hc
  exact .cons hstep (reads_while .number (fun _ _ hd ↦ if_pos hd) hrest [c])

/-- A negative number has its sign before it. -/
def signTokens (n : ℤ) : List Token := if n < 0 then [.symbol '-'] else []

/-- An integer in decimal notation. -/
def intTokens (n : ℤ) : List Token := signTokens n ++ [.number n.natAbs]

theorem reads_negative (n : ℕ) :
    Reads .start ('-' :: Nat.toDigits 10 n) (.number (Nat.toDigits 10 n)) [.symbol '-'] := by
  have hdigits := reads_toDigits n
  obtain ⟨c, digits, heq⟩ := List.exists_cons_of_ne_nil (Nat.toDigits_ne_nil (n := n) (b := 10))
  have hmem : c ∈ Nat.toDigits 10 n := heq ▸ List.mem_cons_self
  have hne : c ≠ '-' := by
    rintro rfl
    exact absurd (Nat.isDigit_of_mem_toDigits (by decide) (by decide) hmem) (by decide)
  rw [heq] at hdigits ⊢
  have hdash : step .start '-' = (.dash, []) := rfl
  have hstep : step .dash c = emit (.symbol '-') (begin c) := if_neg hne
  exact .cons hdash (hdigits.emit rfl hstep)

theorem reads_int (n : ℤ) :
    Reads .start (toString n).toList (.number (Nat.toDigits 10 n.natAbs)) (signTokens n) := by
  cases n with
  | ofNat n =>
    have htext : (toString (Int.ofNat n)).toList = Nat.toDigits 10 n := Nat.toList_repr
    have hsign : signTokens (.ofNat n) = [] := if_neg (Int.not_lt.2 (Int.natCast_nonneg n))
    rw [htext, hsign]
    exact reads_toDigits n
  | negSucc n =>
    have htext : (toString (Int.negSucc n)).toList = '-' :: Nat.toDigits 10 (n + 1) := by
      rw [← Nat.toList_repr]
      exact String.toList_append
    have hsign : signTokens (.negSucc n) = [.symbol '-'] := if_pos (Int.negSucc_lt_zero n)
    rw [htext, hsign]
    exact reads_negative (n + 1)

/-! ### Binary literals -/

/-- The two upper-case digits of a byte. -/
def upperHex (byte : UInt8) : List Char :=
  [(Nat.digitChar (byte.toNat / 16)).toUpper, (Nat.digitChar (byte.toNat % 16)).toUpper]

theorem isHexDigit_digitChar : ∀ n < 16, isHexDigit (Nat.digitChar n).toUpper = true := by decide

theorem hexValue_digitChar : ∀ n < 16, hexValue (Nat.digitChar n).toUpper = n := by decide

theorem isHexDigit_of_mem_upperHex (bytes : List UInt8) :
    ∀ c ∈ bytes.flatMap upperHex, isHexDigit c = true := by
  intro c hc
  obtain ⟨byte, -, hbyte⟩ := List.mem_flatMap.1 hc
  have hlt := byte.toNat_lt
  have hhigh := isHexDigit_digitChar (byte.toNat / 16) (by omega)
  have hlow := isHexDigit_digitChar (byte.toNat % 16) (by omega)
  simp only [upperHex, List.mem_cons, List.not_mem_nil, or_false] at hbyte
  rcases hbyte with rfl | rfl
  · exact hhigh
  · exact hlow

theorem length_flatMap_upperHex (bytes : List UInt8) :
    (bytes.flatMap upperHex).length = 2 * bytes.length := by
  induction bytes with
  | nil => rfl
  | cons byte bytes ih =>
    rw [List.flatMap_cons, List.length_append, ih, List.length_cons]
    have hpair : (upperHex byte).length = 2 := rfl
    omega

theorem hexPairs_upperHex (bytes : List UInt8) : hexPairs (bytes.flatMap upperHex) = bytes := by
  induction bytes with
  | nil => rfl
  | cons byte bytes ih =>
    have hlt := byte.toNat_lt
    have hvalue : 16 * (byte.toNat / 16) + byte.toNat % 16 = byte.toNat := by omega
    rw [List.flatMap_cons, upperHex, List.cons_append, List.singleton_append, hexPairs, ih,
      hexValue_digitChar _ (by omega), hexValue_digitChar _ (by omega), hvalue,
      UInt8.ofNat_toNat]

/-- **The digits of bytes are read back**, byte for byte. -/
theorem hexBytes_upperHex (bytes : List UInt8) : hexBytes (bytes.flatMap upperHex) = bytes := by
  have heven : (bytes.flatMap upperHex).length % 2 = 0 := by
    have hlength := length_flatMap_upperHex bytes
    omega
  rw [hexBytes, if_pos heven, hexPairs_upperHex]

theorem reads_binary (bytes : List UInt8) :
    Reads .start ('0' :: 'x' :: bytes.flatMap upperHex) (.binary (bytes.flatMap upperHex)) [] := by
  have hprefix : Reads .start ['0', 'x'] (.binary []) [] := by decide
  have hdigits := reads_while .binary (fun _ _ hc ↦ if_pos hc)
    (isHexDigit_of_mem_upperHex bytes) []
  exact hprefix.append hdigits

/-! ## Counting quotes -/

/-- The quotes it takes to write this text with so many of its delimiters. -/
def Delimiter.quotes (d : Delimiter) (delimiters : ℕ) (text : List Char) : ℕ :=
  if d.close = '\'' then 2 * text.count '\'' + delimiters else text.count '\''

def Token.quotes : Token → ℕ
  | .delimited d text => d.quotes 2 text.toList
  | _ => 0

def State.quotes : State → ℕ
  | .inside d text => d.quotes 1 text
  | .closing d text => d.quotes 2 text
  | _ => 0

/-- The quotes behind what has been read: those of the tokens, and those of the state. -/
def quotes (read : State × List Token) : ℕ := read.1.quotes + (read.2.map Token.quotes).sum

/-- The closing delimiter adds what it is. -/
theorem Delimiter.quotes_closing (d : Delimiter) (text : List Char) :
    d.quotes 2 text = d.quotes 1 text + [d.close].count '\'' := by
  rw [quotes, quotes]
  split
  · rename_i hd
    rw [hd]
    rfl
  · rename_i hd
    have hzero : [d.close].count '\'' = 0 := List.count_eq_zero.2 (by simpa using Ne.symm hd)
    rw [hzero, Nat.add_zero]

/-- So does the second of two, which belongs to the text. -/
theorem Delimiter.quotes_append_close (d : Delimiter) (text : List Char) :
    d.quotes 1 (text ++ [d.close]) = d.quotes 2 text + [d.close].count '\'' := by
  rw [quotes, quotes, List.count_append]
  split
  · rename_i hd
    rw [hd]
    have hone : ['\''].count '\'' = 1 := rfl
    omega
  · rfl

theorem Delimiter.quotes_append {d : Delimiter} {c : Char} (h : c ≠ d.close) (delimiters : ℕ)
    (text : List Char) :
    d.quotes delimiters (text ++ [c]) = d.quotes delimiters text + [c].count '\'' := by
  rw [quotes, quotes, List.count_append]
  split
  · rename_i hd
    have hzero : [c].count '\'' = 0 := by
      rw [← hd]
      exact List.count_eq_zero.2 (by simpa using Ne.symm h)
    omega
  · rfl

theorem quotes_begin (c : Char) : quotes (begin c) ≤ [c].count '\'' := by
  by_cases hc : c = '\''
  · subst hc
    decide
  · have hzero : quotes (begin c) = 0 := by
      rw [begin]
      repeat' split
      all_goals rfl
    omega

theorem quotes_emit (token : Token) (next : State × List Token) :
    quotes (emit token next) = token.quotes + quotes next := by
  simp only [quotes, emit, List.map_cons, List.sum_cons]
  omega

/-- One character brings in no more quotes than it is. -/
theorem quotes_step (s : State) (c : Char) :
    quotes (step s c) ≤ s.quotes + [c].count '\'' := by
  have hbegin := quotes_begin c
  have hemit : ∀ token, token.quotes = 0 → quotes (emit token (begin c)) ≤ [c].count '\'' := by
    intro token htoken
    rw [quotes_emit, htoken]
    omega
  cases s with
  | start => exact Nat.le_trans hbegin (Nat.le_add_left ..)
  | word text =>
    rw [step]
    refine Nat.le_trans ?_ (Nat.le_add_left ..)
    split
    · exact Nat.zero_le _
    · split
      · rename_i hnational
        rw [hnational.1]
        decide
      · exact hemit _ rfl
  | number digits =>
    rw [step]
    refine Nat.le_trans ?_ (Nat.le_add_left ..)
    split
    · exact Nat.zero_le _
    · split
      · exact Nat.zero_le _
      · exact hemit _ rfl
  | binary digits =>
    rw [step]
    refine Nat.le_trans ?_ (Nat.le_add_left ..)
    split
    · exact Nat.zero_le _
    · exact hemit _ rfl
  | inside d text =>
    rw [step]
    split
    · rename_i hc
      rw [hc]
      exact Nat.le_of_eq (d.quotes_closing text)
    · rename_i hc
      exact Nat.le_of_eq (Delimiter.quotes_append hc 1 text)
  | closing d text =>
    rw [step]
    split
    · rename_i hc
      rw [hc]
      exact Nat.le_of_eq (d.quotes_append_close text)
    · rw [quotes_emit, Token.quotes, String.toList_ofList, State.quotes]
      omega
  | dash =>
    rw [step]
    refine Nat.le_trans ?_ (Nat.le_add_left ..)
    split
    · exact Nat.zero_le _
    · exact hemit _ rfl
  | slash =>
    rw [step]
    refine Nat.le_trans ?_ (Nat.le_add_left ..)
    split
    · exact Nat.zero_le _
    · exact hemit _ rfl
  | lineComment =>
    rw [step]
    split <;> exact Nat.zero_le _
  | comment depth last =>
    rw [step]
    repeat' split
    all_goals exact Nat.zero_le _

theorem quotes_run (s : State) (text : List Char) :
    quotes (run s text) ≤ s.quotes + text.count '\'' := by
  induction text generalizing s with
  | nil => exact Nat.le_refl _
  | cons c text ih =>
    have hstep := quotes_step s c
    have hrest := ih (step s c).1
    rw [run]
    simp only [quotes, List.map_append, List.sum_append] at hstep hrest ⊢
    have hcount : (c :: text).count '\'' = [c].count '\'' + text.count '\'' := by
      rw [← List.count_append]
      rfl
    omega

theorem quotes_finish (s : State) : ((finish s).map Token.quotes).sum ≤ s.quotes := by
  cases s with
  | closing d text =>
    rw [finish, List.map_singleton, List.sum_singleton, Token.quotes, String.toList_ofList]
    exact Nat.le_refl _
  | _ => exact Nat.zero_le _

/-- **A literal takes two quotes for each quote in it, and two more**, so the literals of a text
cannot contain more quotes than the text has room for. -/
theorem quotes_lex (text : String) :
    ((lex text).map Token.quotes).sum ≤ text.toList.count '\'' := by
  have hrun := quotes_run .start text.toList
  have hfinish := quotes_finish (run .start text.toList).1
  change quotes _ ≤ 0 + _ at hrun
  rw [Nat.zero_add, quotes] at hrun
  rw [lex, List.map_append, List.sum_append]
  omega

end Tsql
