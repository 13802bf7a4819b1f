import Mathlib.Data.List.TakeDrop
import Mathlib.Data.Nat.Init
import Mathlib.Tactic.Common
import LeaseLock.Json.Record
import LeaseLock.Json.Text

/-!
Reading back what was written.

`Takes` says that a reader takes a piece of a document, in front of what may follow it in an object,
for a value. Numbers, truth values and texts are taken for what was written, and `null` for a value that
is not there. A written object is read member by member: `Record.read_write` says what the settings of
its members come to.
-/

namespace LeaseLock.Json

/-! ### Numbers -/

section numbers

variable {n : Nat} {cs rest : List Char}

lemma le_ofDigitChars (n : Nat) (cs : List Char) : n ≤ Nat.ofDigitChars 10 cs n := by
  rw [Nat.ofDigitChars_eq_ofDigitChars_zero]
  have hpow : 1 ≤ 10 ^ cs.length := Nat.one_le_pow _ _ (by decide)
  have hmul : 1 * n ≤ 10 ^ cs.length * n := Nat.mul_le_mul_right n hpow
  omega

/-- Digits whose number is not too great are all taken in. -/
lemma absorb_of_lt (h : Nat.ofDigitChars 10 cs n < Width.bits64) :
    absorb n cs = (Nat.ofDigitChars 10 cs n, 0) := by
  induction cs generalizing n with
  | nil => rfl
  | cons c cs ih =>
    rw [Nat.ofDigitChars_cons, Nat.mul_comm 10 n] at h ⊢
    have hle := le_ofDigitChars (n * 10 + (c.toNat - '0'.toNat)) cs
    have hlt : n * 10 + (c.toNat - '0'.toNat) < Width.bits64 := by omega
    rw [absorb, if_pos hlt]
    exact ih h

/-- Only the number zero starts with a zero. -/
lemma eq_zero_of_head? (h : (Text.digits n).head? = some '0') : n = 0 := by
  induction n using Nat.strong_induction_on with
  | _ n ih =>
    unfold Text.digits at h ih
    rcases Nat.lt_or_ge n 10 with hlt | hge
    · rw [Nat.toDigits_of_lt_base hlt] at h
      simpa using h
    · rw [Nat.toDigits_of_base_le (by decide) hge, List.head?_append] at h
      have hne : (Nat.toDigits 10 (n / 10)).head? ≠ none := by simp
      obtain ⟨c, hc⟩ := Option.ne_none_iff_exists'.mp hne
      have hzero : n / 10 = 0 := ih (n / 10) (by omega) (by simpa [hc] using h)
      omega

lemma scanDigits_digits (hrest : ∀ c ∈ rest.head?, c.isDigit = false) :
    scanDigits (Text.digits n ++ rest) = some (Text.digits n, rest) := by
  have hspan : (Text.digits n ++ rest).span (·.isDigit) = (Text.digits n, rest) := by
    rw [List.span_eq_takeWhile_dropWhile,
      List.takeWhile_append_of_pos fun c hc => Text.isDigit_of_mem_digits hc,
      List.dropWhile_append_of_pos fun c hc => Text.isDigit_of_mem_digits hc]
    cases rest with
    | nil => simp
    | cons c rest => simp [hrest c rfl]
  have hne : Text.digits n ≠ [] := Nat.toDigits_ne_nil
  simp only [scanDigits, hspan]
  simp [hne]

end numbers

/-! ### Values in an object -/

/-- Whether what comes next ends a value in an object. -/
def Delimited (rest : List Char) : Prop := rest.head? = some ',' ∨ rest.head? = some '}'

/-- Whether a reader takes a text in an object for a value. -/
def Takes {α : Type} (read : Reader α) (text : List Char) (a : α) : Prop :=
  ∀ rest, Delimited rest → read (skipBlank (text ++ rest)) = .ok (a, rest)

/-- Whether a text starts with a character that is no blank and that `null` does not start with. -/
def Opens (text : List Char) : Prop := ∃ c cs, text = c :: cs ∧ isBlank c = false ∧ c ≠ 'n'

section values

variable {α β : Type} {read : Reader α} {text rest : List Char} {a : α} {n limit : Nat}

lemma Delimited.cases (h : Delimited rest) : ∃ tail, rest = ',' :: tail ∨ rest = '}' :: tail := by
  unfold Delimited at h
  cases rest with
  | nil => simp at h
  | cons c tail => exact ⟨tail, by simpa using h⟩

lemma skipBlank_of_head {c : Char} (h : isBlank c = false) :
    skipBlank (c :: rest) = c :: rest := by
  simp [skipBlank, h]

lemma scanNumber_digits (hn : n < Width.bits64) (hrest : Delimited rest) :
    scanNumber (Text.digits n ++ rest) = some (.natural n, rest) := by
  have hdigits : scanDigits (Text.digits n ++ rest) = some (Text.digits n, rest) := by
    obtain ⟨tail, rfl | rfl⟩ := hrest.cases <;> exact scanDigits_digits (by simp)
  have hzero : ¬ ((Text.digits n).head? = some '0' ∧ (Text.digits n).length ≠ 1) := by
    rintro ⟨hhead, hlength⟩
    rw [eq_zero_of_head? hhead] at hlength
    exact hlength rfl
  have hnumeral : scanNumeral (Text.digits n ++ rest) =
      some (⟨Text.digits n, none, none⟩, rest) := by
    obtain ⟨tail, rfl | rfl⟩ := hrest.cases <;>
      simp [scanNumeral, hdigits, hzero, scanFraction, scanExponent]
  have hvalue : Numeral.value false ⟨Text.digits n, none, none⟩ = some (.natural n) := by
    have hsame : Nat.ofDigitChars 10 (Text.digits n) 0 = n := Nat.ofDigitChars_ten_toDigits
    have habsorb : absorb 0 (Text.digits n) = (Nat.ofDigitChars 10 (Text.digits n) 0, 0) :=
      absorb_of_lt (by omega)
    simp [Numeral.value, habsorb, hsame]
  obtain ⟨c, cs, hcs, hc⟩ := Text.exists_digits n
  have hminus : c ≠ '-' := by
    rintro rfl
    cases hc
  rw [hcs, List.cons_append] at hnumeral ⊢
  rw [scanNumber, hnumeral]
  · simp [← hcs, hvalue]
  · intro tail h
    exact hminus (List.cons.inj h).1

lemma opens_natural (n : Nat) : Opens (writeNatural n) := by
  obtain ⟨c, cs, hcs, hc⟩ := Text.exists_digits n
  refine ⟨c, cs, hcs, ?_, ?_⟩
  · simp only [isBlank, Bool.or_eq_false_iff, beq_eq_false_iff_ne]
    refine ⟨⟨⟨?_, ?_⟩, ?_⟩, ?_⟩ <;> (rintro rfl; cases hc)
  · rintro rfl
    cases hc

lemma opens_text (s : String) : Opens (writeText s) := ⟨'"', _, rfl, rfl, by decide⟩

/-- No blanks are skipped in front of what opens. -/
lemma Opens.skipBlank (h : Opens text) (rest : List Char) :
    skipBlank (text ++ rest) = text ++ rest := by
  obtain ⟨c, cs, rfl, hblank, -⟩ := h
  exact skipBlank_of_head hblank

/-- A number is read as what was written. -/
lemma takes_natural (hn : n < limit) (hlimit : limit ≤ Width.bits64) (expected : String) :
    Takes (readNatural limit expected) (writeNatural n) n := by
  intro rest hrest
  have hscan := scanNumber_digits (n := n) (by omega) hrest
  obtain ⟨c, cs, hcs, hc⟩ := Text.exists_digits n
  rw [(opens_natural n).skipBlank]
  unfold writeNatural
  rw [hcs, List.cons_append] at hscan ⊢
  have hread : readNatural limit expected (c :: (cs ++ rest)) =
      if n < limit then .ok (n, rest) else mismatch (.value (.number (.natural n)) expected) := by
    simp only [readNatural, List.head?_cons, hc, or_true, if_true, hscan, demand]
    rfl
  rw [hread, if_pos hn]

/-- What is made of a value that is read. -/
lemma Takes.map (h : Takes read text a) (f : α → β) :
    Takes (fun cs => do
      let (a, rest) ← read cs
      .ok (f a, rest)) text (f a) := by
  intro rest hrest
  simp only [h rest hrest]
  rfl

/-- A value that is there is read as it is, unless it looks like `null`. -/
lemma takes_some (hopens : Opens text) (h : Takes read text a) :
    Takes (readOptional read) text (some a) := by
  intro rest hrest
  have hread := h rest hrest
  rw [hopens.skipBlank] at hread ⊢
  obtain ⟨c, cs, rfl, -, hc⟩ := hopens
  rw [List.cons_append] at hread ⊢
  rw [readOptional]
  · simp only [hread]
    rfl
  · intro tail htail
    exact hc (List.cons.inj htail).1

/-- Where there may be no value, `null` stands for none and every value for itself. -/
lemma takes_optional {write : β → List Char} {f : β → α} (hopens : ∀ b, Opens (write b))
    (h : ∀ b, Takes read (write b) (f b)) (value : Option β) :
    Takes (readOptional read) (writeOptional write value) (value.map f) := by
  cases value with
  | none => exact fun rest _ => rfl
  | some b => exact takes_some (hopens b) (h b)

lemma takes_bool (b : Bool) : Takes readBool (writeBool b) b := by
  cases b <;> exact fun rest _ => rfl

end values

/-! ### Texts -/

section texts

variable {c : Char} {cs rest : List Char}

lemma hexDigit?_digitChar {d : Nat} (h : d < 16) : hexDigit? (Nat.digitChar d) = some d := by
  revert d
  decide

/-- A control character is written by its number. -/
lemma scanString_control (h : c.toNat < 32) :
    scanString ('\\' :: 'u' :: '0' :: '0' :: Nat.digitChar (c.toNat / 16) ::
      Nat.digitChar (c.toNat % 16) :: rest) = consTo c (scanString rest) := by
  have hhex : hexFour? '0' '0' (Nat.digitChar (c.toNat / 16)) (Nat.digitChar (c.toNat % 16)) =
      some c.toNat := by
    have hzero : hexDigit? '0' = some 0 := by decide
    have hhigh := hexDigit?_digitChar (d := c.toNat / 16) (by omega)
    have hlow := hexDigit?_digitChar (d := c.toNat % 16) (by omega)
    simp only [hexFour?, hzero, hhigh, hlow, bind, Option.bind, pure, Option.some.injEq]
    omega
  have hsurrogate : isHighSurrogate c.toNat = false ∧ isLowSurrogate c.toNat = false := by
    simp only [isHighSurrogate, isLowSurrogate, Bool.and_eq_false_iff, decide_eq_false_iff_not]
    omega
  rw [scanString]
  simp [hhex, hsurrogate, Char.ofNat_toNat]

/-- What a character is written as is read as that character. -/
lemma scanString_writeChar (c : Char) (rest : List Char) :
    scanString (writeChar c ++ rest) = consTo c (scanString rest) := by
  unfold writeChar
  split
  case h_8 hquote hslash hb hf hn hr ht =>
    split
    · next hcontrol => exact scanString_control hcontrol
    · next hcontrol =>
      have hplain : (c == '\\' || decide (c.toNat < 32)) = false := by
        simp only [Bool.or_eq_false_iff, beq_eq_false_iff_ne, decide_eq_false_iff_not]
        exact ⟨hslash, hcontrol⟩
      rw [List.singleton_append, scanString, hplain]
      · rfl
      · exact hquote
      · exact fun _ _ _ _ _ h => (hslash h).elim
      · exact fun _ _ h => (hslash h).elim
  all_goals rfl

lemma scanString_written (cs rest : List Char) :
    scanString (cs.flatMap writeChar ++ '"' :: rest) = some (cs, rest) := by
  induction cs with
  | nil => rfl
  | cons c cs ih => rw [List.flatMap_cons, List.append_assoc, scanString_writeChar, ih]; rfl

/-- A text is read as what was written, whatever characters it has. -/
lemma takes_text (s : String) : Takes readText (writeText s) s := by
  intro rest _
  have hscan := scanString_written s.toList rest
  have hwrite : writeText s ++ rest = '"' :: (s.toList.flatMap writeChar ++ '"' :: rest) := by
    simp [writeText]
  rw [(opens_text s).skipBlank, hwrite]
  simp only [readText, hscan, demand, bind, Except.bind, String.ofList_toList]

end texts

/-! ### Objects -/

/-- A member of a written record: its name, how its value is written, and what reading it sets. -/
structure Entry (σ : Type) where
  name : String
  value : List Char
  set : σ → σ

namespace Entry

variable {σ : Type}

def write (e : Entry σ) : List Char := writeMember e.name e.value

/-- Whether a record has a field that takes the value for what it sets. -/
def Suits (r : Record σ) (e : Entry σ) : Prop :=
  ∃ field, r.fields.find? (·.name = e.name) = some field ∧ Takes field.read e.value e.set

/-- A field that is made of a reader suits the members whose values the reader takes. -/
lemma suits_of {α : Type} (r : Record σ) (name : String) {read : Reader α} {set : α → σ → σ}
    {value : List Char} {a : α} (hfield : r.fields.find? (·.name = name) = some (.of name read set))
    (htakes : Takes read value a) : Suits r ⟨name, value, set a⟩ :=
  ⟨.of name read set, hfield, htakes.map set⟩

/-- The settings that come of reading some members one after another. -/
def setAll (s : σ) (entries : List (Entry σ)) : σ := entries.foldl (fun s e => e.set s) s

end Entry

namespace Record

variable {σ : Type} {r : Record σ} {seen : List String} {e : Entry σ} {entries : List (Entry σ)}
  {rest : List Char} {fuel : Nat}

lemma readMember_written (h : e.Suits r) (hseen : e.name ∉ seen) (s : σ) (hrest : Delimited rest) :
    r.readMember seen s e.name (':' :: (e.value ++ rest)) =
      .ok ((e.name :: seen, e.set s), rest) := by
  obtain ⟨field, hfind, htakes⟩ := h
  have hread := htakes rest hrest
  have hcolon : skipBlank (':' :: (e.value ++ rest)) = ':' :: (e.value ++ rest) := rfl
  simp only [readMember, hfind, Option.isSome_some, List.contains_iff_mem, hseen, and_false,
    if_false, hcolon, hread]
  rfl

/-- A member in front of what may follow it is read, and then the others are. -/
lemma readMembers_member (h : e.Suits r) (hseen : e.name ∉ seen) (s : σ) (hrest : Delimited rest)
    {isFirst : Bool} {cs : List Char}
    (hcs : isFirst = true ∧ cs = e.write ++ rest ∨ isFirst = false ∧ cs = ',' :: e.write ++ rest) :
    r.readMembers (fuel + 1) isFirst seen s cs =
      r.readMembers fuel false (e.name :: seen) (e.set s) rest := by
  have hwrite : e.write ++ rest =
      '"' :: (e.name.toList.flatMap writeChar ++ '"' :: ':' :: (e.value ++ rest)) := by
    simp [Entry.write, writeMember, writeText]
  have hname := scanString_written e.name.toList (':' :: (e.value ++ rest))
  have hmember := readMember_written h hseen s hrest
  have hread : r.readMembers (fuel + 1) isFirst seen s cs =
      (demand (scanString (e.name.toList.flatMap writeChar ++
        '"' :: ':' :: (e.value ++ rest)))).bind fun name =>
          (r.readMember seen s (String.ofList name.1) name.2).bind fun member =>
            r.readMembers fuel false member.1.1 member.1.2 member.2 := by
    rcases hcs with ⟨rfl, rfl⟩ | ⟨rfl, rfl⟩
    · rw [hwrite]
      rfl
    · rw [List.cons_append, hwrite]
      rfl
  have hdone : demand (scanString (e.name.toList.flatMap writeChar ++
      '"' :: ':' :: (e.value ++ rest))) = .ok (e.name.toList, ':' :: (e.value ++ rest)) := by
    rw [hname]
    rfl
  rw [hread, hdone]
  simp only [Except.bind, String.ofList_toList, hmember]

/-- The closing brace ends a record of which nothing is missing. -/
lemma readMembers_close (hall : ∀ name ∈ r.required, name ∈ seen) (isFirst : Bool) (s : σ) :
    r.readMembers (fuel + 1) isFirst seen s ('}' :: rest) = .ok (s, rest) := by
  have hmissing : r.missing? seen = none := by
    simpa only [missing?, List.find?_eq_none, Bool.not_eq_true', Bool.not_eq_false,
      List.contains_iff_mem] using hall
  have hskip : skipBlank ('}' :: rest) = '}' :: rest := rfl
  cases isFirst <;> simp only [readMembers, hskip, hmissing]

/-- Members are read one after another, up to the closing brace. -/
lemma readMembers_written (h : ∀ e ∈ entries, e.Suits r)
    (hnodup : (entries.map (·.name)).Nodup) (hseen : ∀ e ∈ entries, e.name ∉ seen)
    (hall : ∀ name ∈ r.required, name ∈ seen ∨ name ∈ entries.map (·.name))
    (hfuel : entries.length < fuel) (s : σ) :
    r.readMembers fuel false seen s (entries.flatMap (',' :: ·.write) ++ '}' :: rest) =
      .ok (Entry.setAll s entries, rest) := by
  induction entries generalizing seen s fuel with
  | nil =>
    obtain ⟨fuel, rfl⟩ := Nat.exists_eq_add_of_lt hfuel
    exact readMembers_close (fun name hname => by simpa using hall name hname) false s
  | cons e entries ih =>
    obtain ⟨fuel, rfl⟩ := Nat.exists_eq_add_of_lt hfuel
    have hrest : Delimited (entries.flatMap (',' :: ·.write) ++ '}' :: rest) := by
      cases entries <;> simp [Delimited]
    rw [List.map_cons, List.nodup_cons] at hnodup
    rw [List.flatMap_cons, List.append_assoc, readMembers_member (h e List.mem_cons_self)
      (hseen e List.mem_cons_self) s hrest (.inr ⟨rfl, rfl⟩)]
    refine ih (fun x hx => h x (List.mem_cons_of_mem e hx)) hnodup.2 (fun x hx => ?_)
      (fun name hname => ?_) (by simp only [List.length_cons]; omega) (e.set s)
    · rw [List.mem_cons, not_or]
      refine ⟨fun heq => hnodup.1 ?_, hseen x (List.mem_cons_of_mem e hx)⟩
      exact heq ▸ List.mem_map_of_mem hx
    · have hname := hall name hname
      simp only [List.map_cons, List.mem_cons] at hname ⊢
      tauto

lemma flatten_intersperse (m : List Char) (members : List (List Char)) :
    ((m :: members).intersperse [',']).flatten = m ++ members.flatMap (',' :: ·) := by
  induction members generalizing m with
  | nil => simp
  | cons m' members ih =>
    rw [List.intersperse_cons_cons, List.flatten_cons, List.flatten_cons, ih]
    simp

/-- The members of a written object are read up to its end. -/
lemma readMembers_object (h : ∀ e ∈ entries, e.Suits r) (hnodup : (entries.map (·.name)).Nodup)
    (hall : ∀ name ∈ r.required, name ∈ entries.map (·.name)) (hfuel : entries.length < fuel)
    (s : σ) :
    r.readMembers fuel true [] s
      (((entries.map (·.write)).intersperse [',']).flatten ++ ['}']) =
      .ok (Entry.setAll s entries, []) := by
  obtain ⟨fuel, rfl⟩ := Nat.exists_eq_add_of_lt hfuel
  cases entries with
  | nil => exact readMembers_close (fun name hname => by simpa using hall name hname) true s
  | cons e entries =>
    have hrest : Delimited (entries.flatMap (',' :: ·.write) ++ ['}']) := by
      cases entries <;> simp [Delimited]
    rw [List.map_cons, List.nodup_cons] at hnodup
    rw [List.map_cons, flatten_intersperse, List.append_assoc, List.flatMap_map,
      readMembers_member (h e List.mem_cons_self) List.not_mem_nil s hrest (.inl ⟨rfl, rfl⟩)]
    refine readMembers_written (fun x hx => h x (List.mem_cons_of_mem e hx)) hnodup.2
      (fun x hx => ?_) (fun name hname => ?_) (by simp only [List.length_cons]; omega) (e.set s)
    · rw [List.mem_singleton]
      exact fun heq => hnodup.1 (heq ▸ List.mem_map_of_mem hx)
    · have hname := hall name hname
      simp only [List.map_cons, List.mem_cons, List.not_mem_nil, or_false] at hname ⊢
      exact hname

lemma length_lt_object (entries : List (Entry σ)) :
    entries.length <
      (((entries.map (·.write)).intersperse [',']).flatten ++ ['}']).length + 1 := by
  cases entries with
  | nil => simp
  | cons e entries =>
    have hlength : entries.length ≤ ((entries.map (·.write)).flatMap (',' :: ·)).length := by
      induction entries with
      | nil => simp
      | cons e' entries ih =>
        simp only [List.map_cons, List.flatMap_cons, List.length_append, List.length_cons] at ih ⊢
        omega
    rw [List.map_cons, flatten_intersperse]
    simp only [List.length_append, List.length_cons]
    omega

/-- **A written object is read as what its members set.** -/
theorem read_write (h : ∀ e ∈ entries, e.Suits r) (hnodup : (entries.map (·.name)).Nodup)
    (hall : ∀ name ∈ r.required, name ∈ entries.map (·.name)) (s : σ) :
    r.read s (String.ofList (writeObject (entries.map (·.write)))) =
      .ok (Entry.setAll s entries) := by
  have hmembers := readMembers_object h hnodup hall (length_lt_object entries) s
  have hopen : skipBlank (writeObject (entries.map (·.write))) =
      '{' :: (((entries.map (·.write)).intersperse [',']).flatten ++ ['}']) := rfl
  simp only [read, String.toList_ofList, hopen, hmembers, bind, Except.bind]
  rfl

end Record

end LeaseLock.Json
