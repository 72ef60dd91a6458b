import DesignRules.Proofs.Numeral
import DesignRules.Proofs.Text.Utf8
import DesignRules.Server.Query

/-! # Fields of a query

A query is cut at its ampersands, and each part at its first equals sign. A percent-encoding of the
octets of a text, whichever of its characters are escaped, is read as that text.
-/

namespace DesignRules

namespace Text

variable {s : Char} {cs part before after : List Char} {parts : List (List Char)}

theorem splitOn_of_not_mem (h : s ∉ part) : splitOn (· == s) part = [part] := by
  induction part with
  | nil => rfl
  | cons c part ih =>
    rw [List.mem_cons, not_or] at h
    rw [splitOn, if_neg (by simpa using Ne.symm h.1), ih h.2]

theorem splitOn_append_cons (h : s ∉ part) (rest : List Char) :
    splitOn (· == s) (part ++ s :: rest) = part :: splitOn (· == s) rest := by
  induction part with
  | nil => simp [splitOn]
  | cons c part ih =>
    rw [List.mem_cons, not_or] at h
    rw [List.cons_append, splitOn, if_neg (by simpa using Ne.symm h.1), ih h.2]

theorem splitOn_intercalate (hne : parts ≠ []) (h : ∀ p ∈ parts, s ∉ p) :
    splitOn (· == s) ([s].intercalate parts) = parts := by
  induction parts with
  | nil => exact absurd rfl hne
  | cons part parts ih =>
    obtain ⟨hpart, hparts⟩ := List.forall_mem_cons.mp h
    cases parts with
    | nil => rw [List.intercalate_singleton, splitOn_of_not_mem hpart]
    | cons next parts =>
      rw [List.intercalate_cons_cons, List.append_assoc, List.singleton_append,
        splitOn_append_cons hpart, ih (List.cons_ne_nil _ _) hparts]

/-- Every text is made of its parts. -/
theorem exists_parts (s : Char) (cs : List Char) :
    ∃ parts, parts ≠ [] ∧ cs = [s].intercalate parts ∧ ∀ p ∈ parts, s ∉ p := by
  induction cs with
  | nil => exact ⟨[[]], by simp, by simp, by simp⟩
  | cons c cs ih =>
    obtain ⟨parts, hne, rfl, hparts⟩ := ih
    obtain ⟨part, rest, rfl⟩ := List.exists_cons_of_ne_nil hne
    by_cases hc : c = s
    · refine ⟨[] :: part :: rest, List.cons_ne_nil _ _, ?_, ?_⟩
      · rw [List.intercalate_cons_cons, hc]
        rfl
      · simpa using hparts
    · refine ⟨(c :: part) :: rest, List.cons_ne_nil _ _, ?_, ?_⟩
      · cases rest with
        | nil => simp
        | cons next rest => simp [List.intercalate_cons_cons]
      · simpa [Ne.symm hc] using hparts

theorem cut?_append_cons (h : s ∉ before) (after : List Char) :
    cut? s (before ++ s :: after) = some (before, after) := by
  induction before with
  | nil => simp [cut?]
  | cons c before ih =>
    rw [List.mem_cons, not_or] at h
    rw [List.cons_append, cut?, if_neg (Ne.symm h.1), ih h.2]
    rfl

theorem cut?_of_not_mem (h : s ∉ cs) : cut? s cs = none := by
  induction cs with
  | nil => rfl
  | cons c cs ih =>
    rw [List.mem_cons, not_or] at h
    rw [cut?, if_neg (Ne.symm h.1), ih h.2]
    rfl

end Text

namespace Server.Query

variable {query name value : String} {part rawName raw cs : List Char}

/-! ## Names and values -/

/-- A part of a query: a name, and what follows the first equals sign, if there is one. -/
inductive IsField : List Char → List Char → List Char → Prop
  | valued {name value : List Char} : '=' ∉ name → IsField (name ++ '=' :: value) name value
  | bare {name : List Char} : '=' ∉ name → name ≠ [] → IsField name name []

/-- The last part of a query whose name is read as `name` has this value, before it is decoded. -/
def LastValue (query name : String) (raw : List Char) : Prop :=
  ∃ before part after rawName,
    query.toList = ['&'].intercalate (before ++ part :: after) ∧
    (∀ p ∈ before ++ part :: after, '&' ∉ p) ∧
    IsField part rawName raw ∧ unquote rawName = name.toList ∧
    ∀ p ∈ after, ∀ n v, IsField p n v → unquote n ≠ name.toList

theorem IsField.ne_nil (h : IsField part rawName raw) : part ≠ [] := by
  cases h with
  | valued => simp
  | bare _ hne => exact hne

theorem exists_isField (h : part ≠ []) : ∃ rawName raw, IsField part rawName raw := by
  by_cases hmark : '=' ∈ part
  · obtain ⟨before, after, rfl, hbefore⟩ := List.eq_append_cons_of_mem hmark
    exact ⟨before, after, .valued hbefore⟩
  · exact ⟨part, [], .bare hmark h⟩

@[simp] theorem unquote_nil : unquote [] = [] := by
  simp [unquote, unquoteFrom, octets, Text.Utf8.decode, Text.Utf8.decodeFrom]

theorem IsField.field_eq (h : IsField part rawName raw) :
    field part = (unquote rawName, unquote raw) := by
  cases h with
  | valued hname => rw [field, Text.cut?_append_cons hname]
  | bare hname => rw [field, Text.cut?_of_not_mem hname, unquote_nil]

/-- A part that is a field with this name. -/
def isNamed (name : String) (part : List Char) : Bool :=
  part != [] && (field part).1 == name.toList

theorem isNamed_iff : isNamed name part ↔
    ∃ rawName raw, IsField part rawName raw ∧ unquote rawName = name.toList := by
  rw [isNamed, Bool.and_eq_true, bne_iff_ne, beq_iff_eq]
  constructor
  · rintro ⟨hne, hname⟩
    obtain ⟨rawName, raw, hfield⟩ := exists_isField hne
    rw [hfield.field_eq] at hname
    exact ⟨rawName, raw, hfield, hname⟩
  · rintro ⟨rawName, raw, hfield, hname⟩
    exact ⟨hfield.ne_nil, by rw [hfield.field_eq]; exact hname⟩

theorem lookup_fields (name : String) (parts : List (List Char)) :
    ((parts.filter (· != [])).map field).lookup name.toList =
      (parts.find? (isNamed name)).map fun part => (field part).2 := by
  induction parts with
  | nil => rfl
  | cons part parts ih =>
    by_cases hne : part = []
    · simpa [hne, isNamed] using ih
    obtain ⟨⟨n, v⟩, hfield⟩ : ∃ f, field part = f := ⟨_, rfl⟩
    by_cases hname : n = name.toList
    · simp [hne, hname, hfield, isNamed]
    · have hlookup : (name.toList == n) = false := by simpa using Ne.symm hname
      simpa [hne, hname, hlookup, hfield, isNamed, List.lookup_cons] using ih

theorem last?_eq_find? {parts : List (List Char)} (hne : parts ≠ [])
    (hquery : query.toList = ['&'].intercalate parts) (hparts : ∀ p ∈ parts, '&' ∉ p) :
    last? query name =
      (parts.reverse.find? (isNamed name)).map fun part => String.ofList (field part).2 := by
  have hfields : (fields query).reverse = (parts.reverse.filter (· != [])).map field := by
    rw [fields, hquery, Text.splitOn_intercalate hne hparts, List.filter_reverse, List.map_reverse]
  rw [last?, hfields, lookup_fields, Option.map_map]
  rfl

theorem LastValue.last?_eq (h : LastValue query name raw) :
    last? query name = some (String.ofList (unquote raw)) := by
  obtain ⟨before, part, after, rawName, hquery, hparts, hfield, hname, hafter⟩ := h
  have hfind : (before ++ part :: after).reverse.find? (isNamed name) = some part := by
    refine List.find?_eq_some_iff_append.mpr
      ⟨isNamed_iff.mpr ⟨rawName, raw, hfield, hname⟩, after.reverse, before.reverse, by simp, ?_⟩
    intro p hp
    rw [Bool.not_eq_true', ← Bool.not_eq_true, isNamed_iff]
    rintro ⟨n, v, hp', hn⟩
    exact hafter p (List.mem_reverse.mp hp) n v hp' hn
  rw [last?_eq_find? (by simp) hquery hparts, hfind, Option.map_some, hfield.field_eq]

/-- The last value with a name is what is looked up, once decoded. -/
theorem last?_eq_some_iff :
    last? query name = some value ↔
      ∃ raw, LastValue query name raw ∧ value = String.ofList (unquote raw) := by
  constructor
  · intro h
    obtain ⟨parts, hne, hquery, hparts⟩ := Text.exists_parts '&' query.toList
    rw [last?_eq_find? hne hquery hparts] at h
    obtain ⟨part, hfind, rfl⟩ := Option.map_eq_some_iff.mp h
    obtain ⟨hnamed, later, earlier, hsplit, hlater⟩ := List.find?_eq_some_iff_append.mp hfind
    obtain ⟨rawName, raw, hfield, hname⟩ := isNamed_iff.mp hnamed
    obtain rfl : parts = earlier.reverse ++ part :: later.reverse := by
      rw [← List.reverse_reverse parts, hsplit]
      simp
    refine ⟨raw, ⟨earlier.reverse, part, later.reverse, rawName, hquery, hparts, hfield, hname, ?_⟩,
      by rw [hfield.field_eq]⟩
    intro p hp n v hpfield hn
    have hnot := hlater p (List.mem_reverse.mp hp)
    rw [isNamed_iff.mpr ⟨n, v, hpfield, hn⟩] at hnot
    cases hnot
  · rintro ⟨raw, hlast, rfl⟩
    exact hlast.last?_eq

/-! ## Percent-encoding -/

/-- A hexadecimal digit, small or capital, and its value. -/
def IsHexDigit (c : Char) (d : Nat) : Prop :=
  d < 16 ∧ (c = Numeral.digitChar d ∨ c = Numeral.capitalDigitChar d)

/-- A percent-encoding of octets: each of them is escaped, or stands for itself as an ASCII
character other than the marks of an escape and of a space. -/
inductive Encodes : List Char → List Nat → Prop
  | nil : Encodes [] []
  | escape {a b : Char} {high low : Nat} {cs : List Char} {octets : List Nat} :
      IsHexDigit a high → IsHexDigit b low → Encodes cs octets →
      Encodes ('%' :: a :: b :: cs) ((16 * high + low) :: octets)
  | plus {cs : List Char} {octets : List Nat} : Encodes cs octets →
      Encodes ('+' :: cs) (0x20 :: octets)
  | plain {c : Char} {cs : List Char} {octets : List Nat} : c.toNat < 0x80 → c ≠ '%' → c ≠ '+' →
      Encodes cs octets → Encodes (c :: cs) (c.toNat :: octets)

variable {encoded : List Nat}

theorem run?_hexDigits {a b : Char} {high low : Nat} (ha : IsHexDigit a high)
    (hb : IsHexDigit b low) :
    Numeral.run? Numeral.hexDigit? 16 [a, b] = some (16 * high + low) := by
  have hread {c : Char} {d : Nat} (h : IsHexDigit c d) : Numeral.hexDigit? c = some d := by
    have hdigits : ∀ d < 16, Numeral.hexDigit? (Numeral.digitChar d) = some d ∧
        Numeral.hexDigit? (Numeral.capitalDigitChar d) = some d := by decide
    obtain ⟨hd, rfl | rfl⟩ := h
    · exact (hdigits d hd).1
    · exact (hdigits d hd).2
  simp [Numeral.run?, hread ha, hread hb, Numeral.ofDigits]

theorem IsHexDigit.plain {c : Char} {d : Nat} (h : IsHexDigit c d) : isAscii c ∧ c ≠ '+' := by
  have hdigits : ∀ d < 16, (isAscii (Numeral.digitChar d) ∧ Numeral.digitChar d ≠ '+') ∧
      isAscii (Numeral.capitalDigitChar d) ∧ Numeral.capitalDigitChar d ≠ '+' := by decide
  obtain ⟨hd, rfl | rfl⟩ := h
  · exact (hdigits d hd).1
  · exact (hdigits d hd).2

theorem Encodes.isAscii (h : Encodes cs encoded) : ∀ c ∈ cs, isAscii c := by
  induction h with
  | nil => simp
  | escape ha hb _ ih =>
    exact List.forall_mem_cons.mpr ⟨rfl, List.forall_mem_cons.mpr
      ⟨ha.plain.1, List.forall_mem_cons.mpr ⟨hb.plain.1, ih⟩⟩⟩
  | plus _ ih => simpa [Query.isAscii] using ih
  | plain hascii _ _ _ ih => simpa [Query.isAscii, hascii] using ih

theorem Encodes.octets_eq (h : Encodes cs encoded) :
    octets (cs.map fun c => if c = '+' then ' ' else c) = encoded := by
  induction h with
  | nil => simp [octets]
  | escape ha hb h ih =>
    simp only [List.map_cons, if_neg ha.plain.2, if_neg hb.plain.2, if_neg (by decide : '%' ≠ '+')]
    rw [octets, run?_hexDigits ha hb]
    exact congrArg _ ih
  | plus h ih =>
    rw [List.map_cons, if_pos rfl, octets, ih]
    · rfl
    · simp
  | plain hascii hpercent hplus h ih =>
    rw [List.map_cons, if_neg hplus, octets, ih]
    simp [hpercent]

theorem unquoteFrom_of_ascii (h : ∀ c ∈ cs, isAscii c) (run : List Char) :
    unquoteFrom run cs = Text.Utf8.decode (octets (run.reverse ++ cs)) := by
  induction cs generalizing run with
  | nil => rw [unquoteFrom, List.append_nil]
  | cons c cs ih =>
    obtain ⟨hc, hcs⟩ := List.forall_mem_cons.mp h
    rw [unquoteFrom, if_pos hc, ih hcs, List.reverse_cons, List.append_assoc]
    rfl

/-- A percent-encoding of the octets of a text is read as the text. -/
theorem unquote_of_encodes {text : List Char} (h : Encodes cs (Text.Utf8.encode text)) :
    unquote cs = text := by
  have hascii : ∀ c ∈ cs.map fun c => if c = '+' then ' ' else c, isAscii c := by
    refine List.forall_mem_map.mpr fun c hc => ?_
    split
    · rfl
    · exact h.isAscii c hc
  rw [unquote, unquoteFrom_of_ascii hascii, List.reverse_nil, List.nil_append, h.octets_eq,
    Text.Utf8.decode_encode]

end Server.Query

end DesignRules
