import PilotBeacon.Lib.Text

/-!
# Flat JSON Objects

Objects whose members are strings and numerals, written without blanks. The reader takes
exactly what the writer produces.

- `readQuoted_quoted`: a string literal is read back
- `readObject_objectText`: an object is read back, member by member
-/

namespace PilotBeacon.Lib

namespace FlatJson

/-! ## Writing -/

/-- A member's value; a numeral stands as the text it is written with. -/
inductive Value where
  | str (t : Text)
  | numeral (t : Text)
deriving DecidableEq

/-- A quote or a backslash is written behind a backslash. -/
def escapeChar (c : Char) : Text := if c = '"' ∨ c = '\\' then ['\\', c] else [c]

/-- The rest of a string literal after its opening quote. -/
def quoted (t : Text) : Text := t.flatMap escapeChar ++ ['"']

def Value.text : Value → Text
  | .str t => '"' :: quoted t
  | .numeral t => t

def memberText (m : Text × Value) : Text := '"' :: quoted m.1 ++ ':' :: m.2.text

/-- The object's text after its opening brace. -/
def membersText : List (Text × Value) → Text
  | [] => ['\x7d']
  | [m] => memberText m ++ ['\x7d']
  | m :: m' :: ms => memberText m ++ ',' :: membersText (m' :: ms)

def objectText (ms : List (Text × Value)) : Text := '\x7b' :: membersText ms

/-! ## Reading -/

/-- Read a string literal after its opening quote; also what follows it. -/
def readQuoted : Text → Option (Text × Text)
  | [] => none
  | '"' :: rest => some ([], rest)
  | '\\' :: c :: rest => (readQuoted rest).map fun r => (c :: r.1, r.2)
  | c :: rest => (readQuoted rest).map fun r => (c :: r.1, r.2)

/-- A numeral ends where the next member or the end of the object begins. -/
def inNumeral (c : Char) : Bool := c ≠ ',' ∧ c ≠ '\x7d'

def readValue : Text → Option (Value × Text)
  | '"' :: t => (readQuoted t).map fun r => (.str r.1, r.2)
  | t => some (.numeral (t.takeWhile inNumeral), t.dropWhile inNumeral)

def readMember : Text → Option ((Text × Value) × Text)
  | '"' :: t =>
    match readQuoted t with
    | some (key, ':' :: t) => (readValue t).map fun r => ((key, r.1), r.2)
    | _ => none
  | _ => none

/-- Read the members of an object after its opening brace, at most `fuel` of them. -/
def readMembers : Nat → Text → Option (List (Text × Value))
  | 0, _ => none
  | fuel + 1, t =>
    match readMember t with
    | some (m, ',' :: t) => (readMembers fuel t).map fun ms => m :: ms
    | some (m, ['\x7d']) => some [m]
    | _ => none

def readObject : Text → Option (List (Text × Value))
  | ['\x7b', '\x7d'] => some []
  -- every member takes up at least one character
  | '\x7b' :: t => readMembers t.length t
  | _ => none

/-! ## What is written is read -/

theorem quoted_cons (c : Char) (t : Text) : quoted (c :: t) = escapeChar c ++ quoted t := by
  rw [quoted, List.flatMap_cons, List.append_assoc]
  rfl

theorem readQuoted_quoted (t rest : Text) : readQuoted (quoted t ++ rest) = some (t, rest) := by
  induction t with
  | nil => rfl
  | cons c t ih =>
    rw [quoted_cons, List.append_assoc, escapeChar]
    by_cases hc : c = '"' ∨ c = '\\'
    · rw [if_pos hc, List.cons_append, List.singleton_append, readQuoted, ih]
      rfl
    · rw [if_neg hc, List.singleton_append]
      rw [not_or] at hc
      -- an ordinary character
      rw [readQuoted]
      · rw [ih]
        rfl
      · exact fun h => hc.1 h
      · intro d rest' h
        exact fun _ => hc.2 h

/-- A numeral that the reader recognises as one and does not cut short. -/
def Value.Readable : Value → Prop
  | .str _ => True
  | .numeral t => '"' ∉ t.take 1 ∧ t ≠ [] ∧ ∀ c ∈ t, inNumeral c = true

@[simp] theorem readable_str (t : Text) : (Value.str t).Readable := trivial

theorem readValue_text {v : Value} (hv : v.Readable) {c : Char} (hc : inNumeral c = false)
    (rest : Text) : readValue (v.text ++ c :: rest) = some (v, c :: rest) := by
  cases v with
  | str t =>
    rw [Value.text, List.cons_append, readValue, readQuoted_quoted]
    rfl
  | numeral t =>
    obtain ⟨hquote, hne, hall⟩ := hv
    obtain ⟨d, t', rfl⟩ := List.exists_cons_of_ne_nil hne
    rw [Value.text, List.cons_append, readValue, ← List.cons_append,
      List.takeWhile_append_of_pos hall, List.dropWhile_append_of_pos hall,
      List.takeWhile_cons_of_neg (by simp [hc]), List.dropWhile_cons_of_neg (by simp [hc]),
      List.append_nil]
    intro t h
    rw [List.cons.injEq] at h
    simp [h.1] at hquote

theorem readMember_memberText {m : Text × Value} (hv : m.2.Readable) {c : Char}
    (hc : inNumeral c = false) (rest : Text) :
    readMember (memberText m ++ c :: rest) = some (m, c :: rest) := by
  rw [memberText, List.cons_append, List.cons_append, List.append_assoc, List.cons_append,
    readMember, readQuoted_quoted]
  show (readValue (m.2.text ++ c :: rest)).map _ = _
  rw [readValue_text hv hc]
  rfl

theorem readMembers_membersText {ms : List (Text × Value)} (hne : ms ≠ [])
    (hms : ∀ m ∈ ms, m.2.Readable) {fuel : Nat} (hfuel : ms.length ≤ fuel) :
    readMembers fuel (membersText ms) = some ms := by
  induction ms generalizing fuel with
  | nil => exact absurd rfl hne
  | cons m ms ih =>
    obtain ⟨fuel, rfl⟩ : ∃ k, fuel = k + 1 := ⟨fuel - 1, by simp at hfuel; omega⟩
    have hm := hms m List.mem_cons_self
    cases ms with
    | nil =>
      rw [membersText, readMembers, readMember_memberText hm (by decide)]
      rfl
    | cons m' ms =>
      rw [membersText, readMembers, readMember_memberText hm (by decide)]
      show (readMembers fuel (membersText (m' :: ms))).map _ = _
      rw [ih (by simp) (fun x hx => hms x (List.mem_cons_of_mem _ hx)) (by simpa using hfuel)]
      rfl

theorem length_le_membersText (ms : List (Text × Value)) :
    ms.length ≤ (membersText ms).length := by
  induction ms with
  | nil => simp
  | cons m ms ih =>
    cases ms with
    | nil => simp [membersText]
    | cons m' ms =>
      simp only [membersText, List.length_append, List.length_cons] at ih ⊢
      omega

/-- **Round trip.** What is written is read. -/
theorem readObject_objectText {ms : List (Text × Value)} (hms : ∀ m ∈ ms, m.2.Readable) :
    readObject (objectText ms) = some ms := by
  by_cases hne : ms = []
  · subst hne
    rfl
  · rw [objectText, readObject, readMembers_membersText hne hms (length_le_membersText ms)]
    -- a member starts with a quote, so this is not the empty object
    intro h
    obtain ⟨m, ms, rfl⟩ := List.exists_cons_of_ne_nil hne
    cases ms <;> simp [membersText, memberText] at h

end FlatJson

end PilotBeacon.Lib
