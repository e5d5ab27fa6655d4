import Mathlib.Data.String.Basic

/-!
# Self-delimiting texts and JSON objects of strings

A way of writing is self-delimiting when what is written can be split off any text that
begins with it.
-/

namespace Encoding

variable {Item Other : Type}

def SelfDelimiting (write : Item → List Char) : Prop :=
  ∀ item other rest others, write item ++ rest = write other ++ others →
    item = other ∧ rest = others

theorem selfDelimiting_of_reader {write : Item → List Char}
    (read : List Char → Option (Item × List Char))
    (reads : ∀ item rest, read (write item ++ rest) = some (item, rest)) :
    SelfDelimiting write := by
  intro item other rest others same
  have first := reads item rest
  rw [same, reads other others] at first
  obtain ⟨isItem, isRest⟩ := Prod.mk.inj (Option.some.inj first)
  exact ⟨isItem.symm, isRest.symm⟩

namespace SelfDelimiting

theorem injective {write : Item → List Char} (delimited : SelfDelimiting write) :
    Function.Injective write := by
  intro item other same
  exact (delimited item other [] [] (by rw [same])).1

theorem pair {write : Item → List Char} {writeOther : Other → List Char}
    (first : SelfDelimiting write) (second : SelfDelimiting writeOther) (between : Char) :
    SelfDelimiting fun pair : Item × Other => write pair.1 ++ between :: writeOther pair.2 := by
  rintro ⟨item, value⟩ ⟨other, otherValue⟩ rest others same
  simp only [List.append_assoc, List.cons_append] at same
  obtain ⟨isItem, tails⟩ := first _ _ _ _ same
  obtain ⟨isValue, isRest⟩ := second _ _ _ _ (List.cons.inj tails).2
  exact ⟨by rw [isItem, isValue], isRest⟩

theorem closed {write : Item → List Char} (delimited : SelfDelimiting write) {stop : Char}
    (unlike : ∀ item, ∃ first rest, write item = first :: rest ∧ first ≠ stop) :
    SelfDelimiting fun items : List Item => items.flatMap write ++ [stop] := by
  have starts : ∀ item rest others, write item ++ rest ≠ stop :: others := by
    intro item rest others same
    obtain ⟨first, tail, isWritten, other⟩ := unlike item
    rw [isWritten] at same
    exact other (List.cons.inj same).1
  intro items
  induction items with
  | nil =>
    intro others rest otherRest same
    cases others with
    | nil => exact ⟨rfl, (List.cons.inj same).2⟩
    | cons other others =>
      simp only [List.flatMap_cons, List.append_assoc] at same
      exact absurd same.symm (starts _ _ _)
  | cons item items ih =>
    intro others rest otherRest same
    cases others with
    | nil =>
      simp only [List.flatMap_cons, List.append_assoc] at same
      exact absurd same (starts _ _ _)
    | cons other others =>
      simp only [List.flatMap_cons, List.append_assoc] at same
      obtain ⟨isItem, tails⟩ := delimited _ _ _ _ same
      obtain ⟨areItems, isRest⟩ := ih others rest otherRest
        (by simpa only [List.append_assoc] using tails)
      exact ⟨by rw [isItem, areItems], isRest⟩

end SelfDelimiting

def hexDigit (value : Nat) : Char :=
  if value < 10 then Char.ofNat (48 + value) else Char.ofNat (87 + value)

/-- A character inside a literal: the quote, the backslash and the control characters are
escaped, everything else stands for itself. -/
def escape (character : Char) : List Char :=
  if character = '"' then ['\\', '"']
  else if character = '\\' then ['\\', '\\']
  else if character = '\n' then ['\\', 'n']
  else if character = '\r' then ['\\', 'r']
  else if character = '\t' then ['\\', 't']
  else if character = '\x0c' then ['\\', 'f']
  else if character = '\x08' then ['\\', 'b']
  else if character.toNat < 32 then
    ['\\', 'u', '0', '0', hexDigit (character.toNat / 16), hexDigit (character.toNat % 16)]
  else [character]

def unescapeLetter (letter : Char) : Char :=
  if letter = 'n' then '\n'
  else if letter = 'r' then '\r'
  else if letter = 't' then '\t'
  else if letter = 'f' then '\x0c'
  else if letter = 'b' then '\x08'
  else letter

def hexValue (digit : Char) : Nat :=
  if digit.toNat < 58 then digit.toNat - 48 else digit.toNat - 87

def unescape : List Char → Option (Char × List Char)
  | '\\' :: 'u' :: '0' :: '0' :: high :: low :: rest =>
      some (Char.ofNat (hexValue high * 16 + hexValue low), rest)
  | '\\' :: letter :: rest => some (unescapeLetter letter, rest)
  | character :: rest => some (character, rest)
  | [] => none

theorem hexValue_hexDigit : ∀ code < 32,
    Char.ofNat (hexValue (hexDigit (code / 16)) * 16 + hexValue (hexDigit (code % 16))) =
      Char.ofNat code := by
  decide

theorem unescape_escape (character : Char) (rest : List Char) :
    unescape (escape character ++ rest) = some (character, rest) := by
  unfold escape
  split_ifs with quote backslash newline carriage tab feed back control
  · rw [quote]
    rfl
  · rw [backslash]
    rfl
  · rw [newline]
    rfl
  · rw [carriage]
    rfl
  · rw [tab]
    rfl
  · rw [feed]
    rfl
  · rw [back]
    rfl
  · have read := hexValue_hexDigit character.toNat control
    change some (Char.ofNat _, rest) = _
    rw [read, Char.ofNat_toNat]
  · unfold unescape
    split
    · rename_i same
      exact absurd (List.cons.inj same).1 backslash
    · rename_i same
      exact absurd (List.cons.inj same).1 backslash
    · rename_i same
      obtain ⟨isCharacter, isRest⟩ := List.cons.inj same
      rw [isCharacter, ← isRest]
      rfl
    · rename_i impossible
      cases impossible

theorem escape_unlike_quote (character : Char) :
    ∃ first rest, escape character = first :: rest ∧ first ≠ '"' := by
  unfold escape
  split_ifs with quote
  all_goals first
    | exact ⟨_, _, rfl, quote⟩
    | exact ⟨_, _, rfl, by decide⟩

def literal (text : String) : List Char := '"' :: (text.toList.flatMap escape ++ ['"'])

theorem literal_selfDelimiting : SelfDelimiting literal := by
  have inside : SelfDelimiting fun characters : List Char => characters.flatMap escape ++ ['"'] :=
    (selfDelimiting_of_reader unescape unescape_escape).closed escape_unlike_quote
  intro text other rest others same
  obtain ⟨isText, isRest⟩ := inside _ _ _ _ (List.cons.inj same).2
  exact ⟨String.toList_inj.mp isText, isRest⟩

def member (entry : String × String) : List Char := literal entry.1 ++ ':' :: literal entry.2

theorem member_selfDelimiting : SelfDelimiting member :=
  literal_selfDelimiting.pair literal_selfDelimiting ':'

/-- The members that follow the first one, and the brace that closes the object. -/
def furtherMembers (entries : List (String × String)) : List Char :=
  entries.flatMap (fun entry => ',' :: member entry) ++ ['}']

def jsonObject (first : String × String) (entries : List (String × String)) : String :=
  String.ofList ('{' :: (member first ++ furtherMembers entries))

theorem jsonObject_inj {first other : String × String} {entries others : List (String × String)}
    (same : jsonObject first entries = jsonObject other others) :
    first = other ∧ entries = others := by
  have comma : SelfDelimiting fun entry : String × String => ',' :: member entry := by
    intro entry another rest anotherRest equal
    exact member_selfDelimiting _ _ _ _ (List.cons.inj equal).2
  have further : SelfDelimiting furtherMembers :=
    comma.closed fun entry => ⟨',', member entry, rfl, by decide⟩
  have texts := String.ofList_injective same
  obtain ⟨isFirst, tails⟩ := member_selfDelimiting _ _ _ _ (List.cons.inj texts).2
  exact ⟨isFirst, further.injective tails⟩

end Encoding
