import PaddleLink.Json.Lexeme

namespace PaddleLink.Json

inductive Lexeme where
  | number
  | string
  | word
  deriving DecidableEq, Repr

/-- A token. A number or a string can have an extent and still no value. -/
inductive Token where
  | openArray
  | closeArray
  | openObject
  | closeObject
  | comma
  | colon
  | null
  | bool (b : Bool)
  | number (n : Except Fault Number)
  | string (s : Except Fault String)
  | broken (kind : Lexeme) (b : Break)
  | stray

def isBlank (c : Char) : Bool :=
  c = ' ' || c = '\n' || c = '\t' || c = '\r'

def faultOr {α : Type} (other : Fault) : Except Fault α → Fault
  | .ok _ => other
  | .error f => f

def numberToken (cs : List Char) : Token × List Char :=
  match scanNumber cs with
  | .ok (n, rest) => (.number n.value, rest)
  | .error b => (.broken .number b, [])

def stringToken (cs : List Char) : Token × List Char :=
  match scanPieces cs with
  | (ps, .ok rest) => (.string ((joinPieces none ps).map String.ofList), rest)
  | (ps, .error f) => (.broken .string ⟨faultOr f (joinPieces (some f) ps), f⟩, [])

def wordToken (word : List Char) (t : Token) (cs : List Char) : Token × List Char :=
  match scanWord word cs with
  | .ok rest => (t, rest)
  | .error f => (.broken .word ⟨f, f⟩, [])

def token (c : Char) (cs : List Char) : Token × List Char :=
  match c with
  | '[' => (.openArray, cs)
  | ']' => (.closeArray, cs)
  | '{' => (.openObject, cs)
  | '}' => (.closeObject, cs)
  | ',' => (.comma, cs)
  | ':' => (.colon, cs)
  | '"' => stringToken cs
  | 'n' => wordToken ['u', 'l', 'l'] .null cs
  | 't' => wordToken ['r', 'u', 'e'] (.bool true) cs
  | 'f' => wordToken ['a', 'l', 's', 'e'] (.bool false) cs
  | c => if c = '-' ∨ c.isDigit then numberToken (c :: cs) else (.stray, [])

theorem length_afterDigits_le (cs : List Char) : (afterDigits cs).length ≤ cs.length :=
  (List.dropWhile_sublist _).length_le

theorem length_of_scanDigits {cs : List Char} {r : List Nat × List Char}
    (h : scanDigits cs = .ok r) : r.2.length < cs.length := by
  unfold scanDigits at h
  split at h
  · cases h
  · rename_i hd
    cases h
    cases cs with
    | nil => simp [leadingDigits] at hd
    | cons c cs =>
      by_cases hc : c.isDigit
      · have := length_afterDigits_le cs
        simp only [afterDigits, List.dropWhile_cons, hc, if_true, List.length_cons] at this ⊢
        omega
      · simp [leadingDigits, hc] at hd

theorem length_of_scanWhole {cs : List Char} {r : List Nat × List Char}
    (h : scanWhole cs = .ok r) : r.2.length < cs.length := by
  unfold scanWhole at h
  split at h
  · split at h
    · cases h; simp
    · cases h
  · exact length_of_scanDigits h

theorem length_of_scanFraction {cs : List Char} {r : List Nat × List Char}
    (h : scanFraction cs = .ok r) : r.2.length ≤ cs.length := by
  unfold scanFraction at h
  split at h
  · have := length_of_scanDigits h
    simp only [List.length_cons]
    omega
  · cases h; simp

theorem length_of_scanExponentDigits {negative : Bool} {cs : List Char}
    {r : Option (Bool × List Nat) × List Char}
    (h : scanExponentDigits negative cs = .ok r) : r.2.length < cs.length := by
  unfold scanExponentDigits at h
  cases hd : scanDigits cs with
  | error => rw [hd] at h; cases h
  | ok p => rw [hd] at h; cases h; exact length_of_scanDigits hd

theorem length_of_scanSignedExponent {cs : List Char} {r : Option (Bool × List Nat) × List Char}
    (h : scanSignedExponent cs = .ok r) : r.2.length < cs.length := by
  unfold scanSignedExponent at h
  split at h
  · have := length_of_scanExponentDigits h
    simp only [List.length_cons]
    omega
  · have := length_of_scanExponentDigits h
    simp only [List.length_cons]
    omega
  · exact length_of_scanExponentDigits h

theorem length_of_scanExponent {cs : List Char} {r : Option (Bool × List Nat) × List Char}
    (h : scanExponent cs = .ok r) : r.2.length ≤ cs.length := by
  unfold scanExponent at h
  split at h
  · have := length_of_scanSignedExponent h
    simp only [List.length_cons]
    omega
  · have := length_of_scanSignedExponent h
    simp only [List.length_cons]
    omega
  · cases h; simp

theorem length_of_scanUnsigned {negative : Bool} {cs : List Char} {r : Numeral × List Char}
    (h : scanUnsigned negative cs = .ok r) : r.2.length < cs.length := by
  unfold scanUnsigned at h
  cases hw : scanWhole cs with
  | error => rw [hw] at h; cases h
  | ok w =>
    cases hf : scanFraction w.2 with
    | error => simp only [hw, hf, bind, Except.bind] at h; cases h
    | ok f =>
      cases he : scanExponent f.2 with
      | error => simp only [hw, hf, he, bind, Except.bind] at h; cases h
      | ok e =>
        simp only [hw, hf, he, bind, Except.bind] at h
        cases h
        have := length_of_scanWhole hw
        have := length_of_scanFraction hf
        have := length_of_scanExponent he
        simp only
        omega

theorem length_of_scanNumber {cs : List Char} {r : Numeral × List Char}
    (h : scanNumber cs = .ok r) : r.2.length < cs.length := by
  unfold scanNumber at h
  split at h
  · have := length_of_scanUnsigned h
    simp only [List.length_cons]
    omega
  · exact length_of_scanUnsigned h

theorem length_of_scanPieces (cs : List Char) :
    ∀ rest, (scanPieces cs).2 = .ok rest → rest.length < cs.length := by
  fun_induction scanPieces cs with
  | case2 cs =>
    intro rest h
    cases h
    simp
  | case3 a b c d cs n hn ih =>
    intro rest h
    have := ih rest h
    simp only [List.length_cons]
    omega
  | case6 c cs _ _ e he ih =>
    intro rest h
    have := ih rest h
    simp only [List.length_cons]
    omega
  | case10 c cs _ _ _ _ _ _ ih =>
    intro rest h
    have := ih rest h
    simp only [List.length_cons]
    omega
  | _ => intro rest h; cases h

theorem length_of_scanWord (word : List Char) (cs : List Char) :
    ∀ rest, scanWord word cs = .ok rest → rest.length ≤ cs.length := by
  fun_induction scanWord word cs with
  | case1 cs => intro rest h; cases h; simp
  | case2 => intro rest h; cases h
  | case3 ws c cs ih =>
    intro rest h
    have := ih rest h
    simp only [List.length_cons]
    omega
  | case4 => intro rest h; cases h

theorem length_numberToken_lt (c : Char) (cs : List Char) :
    (numberToken (c :: cs)).2.length ≤ cs.length := by
  unfold numberToken
  split
  · rename_i h
    have := length_of_scanNumber h
    simp only [List.length_cons] at this
    simp only
    omega
  · simp

theorem length_stringToken_le (cs : List Char) : (stringToken cs).2.length ≤ cs.length := by
  unfold stringToken
  split
  · rename_i h
    have := length_of_scanPieces cs _ (by rw [h])
    simp only
    omega
  · simp

theorem length_wordToken_le (word : List Char) (t : Token) (cs : List Char) :
    (wordToken word t cs).2.length ≤ cs.length := by
  unfold wordToken
  split
  · rename_i h; exact length_of_scanWord _ _ _ h
  · simp

theorem length_token_le (c : Char) (cs : List Char) : (token c cs).2.length ≤ cs.length := by
  unfold token
  split
  case h_7 => exact length_stringToken_le cs
  case h_8 => exact length_wordToken_le _ _ cs
  case h_9 => exact length_wordToken_le _ _ cs
  case h_10 => exact length_wordToken_le _ _ cs
  case h_11 =>
    split
    · exact length_numberToken_lt c cs
    · simp
  all_goals simp

def tokens : List Char → List Token
  | [] => []
  | c :: cs =>
    if isBlank c then tokens cs
    else (token c cs).1 :: tokens (token c cs).2
termination_by cs => cs.length
decreasing_by
  · simp
  · have := length_token_le c cs
    simp only [List.length_cons]
    omega

end PaddleLink.Json
