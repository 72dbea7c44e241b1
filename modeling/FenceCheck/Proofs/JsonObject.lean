import FenceCheck.Proofs.JsonText

/-!
An object without containers in it, on one line as a script's runtime writes it. The reader gets its
fields back, and finds a fault of syntax where the text is cut off inside a string.
-/

namespace FenceCheck

namespace Text

theorem join_append (separator : Text) (front : List Text) {back : List Text} (some : back ≠ []) :
    join separator (front ++ back) =
      front.flatMap (· ++ separator) ++ join separator back := by
  induction front with
  | nil => rfl
  | cons piece front ih =>
      have more : front ++ back ≠ [] := by simp [some]
      rw [List.cons_append, join, ih, List.flatMap_cons, List.append_assoc (piece ++ separator)]
      exact more

end Text

namespace Json

theorem unpaired_ofChars (chars : List Char) : Unpaired (Text.ofChars chars) := by
  induction chars with
  | nil => trivial
  | cons c chars ih =>
      cases chars with
      | nil => trivial
      | cons d chars => exact ⟨fun pair => absurd pair.1 Bool.false_ne_true, ih⟩

/-- A string of a script. Two halves that stand side by side in one are a character. -/
structure ScriptString where
  text : Text
  unpaired : Unpaired text

inductive Scalar where
  | null
  | bool (b : Bool)
  | str (s : ScriptString)

def scriptQuoted (s : Text) : Text := .char '\x22' :: scriptText s ++ [.char '\x22']

def Scalar.toJson : Scalar → Json
  | null => .null
  | bool b => .bool b
  | str s => .str s.text

def Scalar.written : Scalar → Text
  | null => "null"
  | bool true => "true"
  | bool false => "false"
  | str s => scriptQuoted s.text

theorem readValue_written (value : Scalar) (room fuel : Nat) (rest : Text) :
    readValue room (fuel + 1) (value.written ++ rest) = .ok (value.toJson, rest) := by
  cases value with
  | null =>
      simp [Scalar.written, Scalar.toJson, readValue, readAtom, constants, Text.ofString,
        Text.ofChars, Text.dropStart?]
  | bool b =>
      cases b <;>
        simp [Scalar.written, Scalar.toJson, readValue, readAtom, constants, Text.ofString,
          Text.ofChars, Text.dropStart?]
  | str s =>
      have read := stringBody_scriptText s.unpaired (.char '\x22' :: (scriptText s.text ++
        .char '\x22' :: rest)).length rest
      rw [Scalar.written, scriptQuoted, List.cons_append, List.cons_append, List.append_assoc,
        List.singleton_append, readValue, read]
      rfl

abbrev Member := String × Scalar

namespace Member

def field (member : Member) : Text × Json := (member.1, member.2.toJson)

def written (member : Member) : Text :=
  scriptQuoted member.1 ++ .char ':' :: member.2.written

end Member

def scriptObject (members : List Member) : Text :=
  .char '\x7b' :: Text.join [.char ','] (members.map Member.written) ++ [.char '\x7d']

theorem readMembers_name (name : String) (room fuel : Nat) (rest : Text) :
    readMembers room (fuel + 1) (scriptQuoted name ++ .char ':' :: rest) =
      match readValue room fuel (skipSpace rest) with
      | .error fault => .error fault
      | .ok (value, rest) =>
          match skipSpace rest with
          | .char '\x7d' :: rest => .ok ([(↑name, value)], rest)
          | .char ',' :: rest =>
              match readMembers room fuel (skipSpace rest) with
              | .ok (members, rest) => .ok ((↑name, value) :: members, rest)
              | .error fault => .error fault
          | rest => .error ⟨.expectedComma, rest.length⟩ := by
  have unpaired : Unpaired (Text.ofString name) := unpaired_ofChars name.toList
  rw [scriptQuoted, List.cons_append, List.cons_append, List.append_assoc, List.singleton_append,
    readMembers, stringBody_scriptText unpaired]
  rfl

theorem skipSpace_quoted (s rest : Text) :
    skipSpace (scriptQuoted s ++ rest) = scriptQuoted s ++ rest := rfl

theorem skipSpace_written (value : Scalar) (rest : Text) :
    skipSpace (value.written ++ rest) = value.written ++ rest := by
  cases value with
  | null => simp [Scalar.written, Text.ofString, Text.ofChars, skipSpace, isSpace]
  | bool b =>
      cases b <;> simp [Scalar.written, Text.ofString, Text.ofChars, skipSpace, isSpace]
  | str s => exact skipSpace_quoted s.text rest

theorem readMembers_last (member : Member) (room fuel : Nat) (rest : Text) :
    readMembers room (fuel + 2) (member.written ++ .char '\x7d' :: rest) =
      .ok ([member.field], rest) := by
  rw [Member.written, List.append_assoc, List.cons_append, readMembers_name, skipSpace_written,
    readValue_written]
  rfl

theorem readMembers_next (member : Member) (room fuel : Nat) {rest : Text}
    (tight : skipSpace rest = rest) :
    readMembers room (fuel + 2) (member.written ++ .char ',' :: rest) =
      (readMembers room (fuel + 1) rest).map fun found =>
        (member.field :: found.1, found.2) := by
  rw [Member.written, List.append_assoc, List.cons_append, readMembers_name, skipSpace_written,
    readValue_written]
  have comma : skipSpace (.char ',' :: rest) = .char ',' :: rest := rfl
  simp only [comma]
  rw [tight]
  cases readMembers room (fuel + 1) rest <;> rfl

def leading (members : List Member) : Text := members.flatMap fun member =>
  member.written ++ [.char ',']

theorem skipSpace_leading (members : List Member) {rest : Text} (tight : skipSpace rest = rest) :
    skipSpace (leading members ++ rest) = leading members ++ rest := by
  cases members with
  | nil => exact tight
  | cons member members => rfl

theorem readMembers_leading (members : List Member) (room fuel : Nat) {rest : Text}
    (tight : skipSpace rest = rest) :
    readMembers room (fuel + 1 + members.length) (leading members ++ rest) =
      (readMembers room (fuel + 1) rest).map fun found =>
        (members.map Member.field ++ found.1, found.2) := by
  induction members with
  | nil =>
      change readMembers room (fuel + 1) rest = _
      cases readMembers room (fuel + 1) rest <;> rfl
  | cons member members ih =>
      have written : leading (member :: members) ++ rest =
          member.written ++ .char ',' :: (leading members ++ rest) := by
        simp [leading]
      have fuels : fuel + 1 + (member :: members).length = fuel + members.length + 2 := by
        rw [List.length_cons]
        omega
      have fewer : fuel + members.length + 1 = fuel + 1 + members.length := by omega
      rw [written, fuels, readMembers_next _ _ _ (skipSpace_leading members tight), fewer, ih]
      cases readMembers room (fuel + 1) rest <;> rfl

theorem length_leading (members : List Member) : members.length ≤ (leading members).length := by
  induction members with
  | nil => exact Nat.le_refl _
  | cons member members ih =>
      simp only [leading, List.flatMap_cons, List.length_append, List.length_cons] at ih ⊢
      omega

theorem readValue_brace {t inner : Text} (spaces : skipSpace t = inner)
    (opened : inner.head? ≠ some (.char '\x7d')) (room fuel : Nat) :
    readValue (room + 1) (fuel + 1) (.char '\x7b' :: t) =
      (readMembers room fuel inner).map fun found => (.object (Fields.ofMembers found.1), found.2) := by
  rw [readValue, if_neg (Nat.succ_ne_zero room), spaces, Nat.add_sub_cancel]
  split
  case h_1 closed => exact absurd rfl opened
  case h_2 => cases readMembers room fuel inner <;> rfl

theorem read_brace {t inner : Text} (spaces : skipSpace t = inner)
    (opened : inner.head? ≠ some (.char '\x7d')) :
    read (.char '\x7b' :: t) =
      match readMembers 974 (2 * t.length + 3) inner with
      | .error fault => .error fault
      | .ok (members, rest) =>
          match skipSpace rest with
          | [] => .ok (.object (Fields.ofMembers members))
          | rest => .error ⟨.extraData, rest.length⟩ := by
  have fuels : 2 * (CodePoint.char '\x7b' :: t).length + 2 = 2 * t.length + 3 + 1 := by
    rw [List.length_cons]
    omega
  have tight : skipSpace (.char '\x7b' :: t) = .char '\x7b' :: t := rfl
  rw [read, fuels, tight, nestingLimit, readValue_brace spaces opened]
  · cases readMembers 974 (2 * t.length + 3) inner <;> rfl
  · simp

theorem read_leading (front : List Member) (rest : Text)
    (quote : rest.head? = some (.char '\x22')) :
    ∃ fuel, read (.char '\x7b' :: (leading front ++ rest)) =
      match readMembers 974 (fuel + 2) rest with
      | .error fault => .error fault
      | .ok (members, rest) =>
          match skipSpace rest with
          | [] => .ok (.object (Fields.ofMembers (front.map Member.field ++ members)))
          | rest => .error ⟨.extraData, rest.length⟩ := by
  have tight : skipSpace rest = rest := by
    cases rest with
    | nil => rfl
    | cons c rest =>
        cases quote
        rfl
  have opened : (leading front ++ rest).head? ≠ some (.char '\x7d') := by
    cases front <;> simp [leading, Member.written, scriptQuoted, quote]
  have few := length_leading front
  -- Each member in front takes one unit of the fuel, and is longer than that.
  obtain ⟨fuel, enough⟩ : ∃ fuel,
      2 * (leading front ++ rest).length + 3 = fuel + 1 + 1 + front.length := by
    refine ⟨2 * (leading front ++ rest).length + 1 - front.length, ?_⟩
    rw [List.length_append]
    omega
  refine ⟨fuel, ?_⟩
  rw [read_brace (skipSpace_leading front tight) opened, enough, readMembers_leading front _ _ tight]
  cases readMembers 974 (fuel + 2) rest <;> rfl

theorem read_scriptObject (front : List Member) (last : Member) :
    read (scriptObject (front ++ [last])) =
      .ok (.object (Fields.ofMembers ((front ++ [last]).map Member.field))) := by
  have joined : scriptObject (front ++ [last]) =
      .char '\x7b' :: (leading front ++ (last.written ++ [.char '\x7d'])) := by
    rw [scriptObject, List.map_append, Text.join_append _ _ (by simp), List.flatMap_map]
    simp [leading, Text.join]
  obtain ⟨fuel, read⟩ := read_leading front (last.written ++ [.char '\x7d']) rfl
  rw [joined, read, readMembers_last, List.map_append]
  rfl

def opening (front : List Member) (name : String) : Text :=
  .char '\x7b' :: (leading front ++ (scriptQuoted name ++ [.char ':', .char '\x22']))

def closing (back : List Member) : Text :=
  .char '\x22' :: (back.flatMap fun member => .char ',' :: member.written) ++ [.char '\x7d']

theorem scriptObject_string (front back : List Member) (name : String) (s : ScriptString) :
    scriptObject (front ++ (name, .str s) :: back) =
      opening front name ++ (scriptText s.text ++ closing back) := by
  have joined (first : Text) : Text.join [.char ','] (first :: back.map Member.written) =
      first ++ back.flatMap fun member => .char ',' :: member.written := by
    induction back generalizing first with
    | nil => simp [Text.join]
    | cons member back ih => simp [Text.join, ih]
  rw [scriptObject, List.map_append, List.map_cons, Text.join_append _ _ (by simp), joined,
    List.flatMap_map]
  simp [opening, closing, leading, Member.written, Scalar.written, scriptQuoted]

theorem read_opening (front : List Member) (name : String) {s p : Text}
    (cut : p <+: scriptText s) :
    ∃ fault, read (opening front name ++ p) = .error fault ∧ fault.isSyntax = true := by
  have split : opening front name ++ p =
      .char '\x7b' :: (leading front ++ (scriptQuoted name ++ .char ':' :: .char '\x22' :: p)) := by
    simp [opening]
  obtain ⟨fuel, read⟩ := read_leading front
    (scriptQuoted name ++ .char ':' :: .char '\x22' :: p) rfl
  obtain ⟨fault, failed, kind⟩ := stringBody_cut cut (CodePoint.char '\x22' :: p).length
  have tight : skipSpace (.char '\x22' :: p) = .char '\x22' :: p := rfl
  refine ⟨fault, ?_, kind⟩
  rw [split, read, readMembers_name, tight, readValue, failed]

end Json

end FenceCheck
