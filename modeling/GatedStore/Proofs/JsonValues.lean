import GatedStore.Json.Reader
import GatedStore.Proofs.JsonNumbers
import GatedStore.Proofs.JsonStrings

namespace GatedStore.Json

open Text.Utf8

mutual

/-- No number in the value is a floating point number. -/
def Integral : Json → Prop
  | .number (.float _) => False
  | .array items => AllIntegral items
  | .object members => MembersIntegral members
  | _ => True

def AllIntegral : List Json → Prop
  | [] => True
  | v :: items => v.Integral ∧ AllIntegral items

def MembersIntegral : List (String × Json) → Prop
  | [] => True
  | (_, v) :: members => v.Integral ∧ MembersIntegral members

end

mutual

def nesting : Json → Nat
  | .array items => itemsNesting items + 1
  | .object members => membersNesting members + 1
  | _ => 0

def itemsNesting : List Json → Nat
  | [] => 0
  | v :: items => max v.nesting (itemsNesting items)

def membersNesting : List (String × Json) → Nat
  | [] => 0
  | (_, v) :: members => max v.nesting (membersNesting members)

end

namespace Reader

/-- The reader takes a text off the front of the bytes, unless it goes on with more of a number. -/
def Takes {α : Type} (read : Reader α) (cs : List Char) (a : α) : Prop :=
  ∀ s, Stops s → read (encode cs ++ s) = .ok (a, s)

def Opens (b : UInt8) : Prop :=
  isBlank b = false ∧ b ≠ ']'.toUInt8

theorem skipBlanks_cons {b : UInt8} (h : isBlank b = false) (s : List UInt8) : skipBlanks (b :: s) = b :: s := by
  rw [skipBlanks, List.dropWhile_cons, if_neg (by simp [h])]

theorem opens_of_isDigit {b : UInt8} (h : isDigit b = true) : Opens b := by
  have hspace := ne_of_isDigit (c := ' '.toUInt8) h rfl
  have hline := ne_of_isDigit (c := '\n'.toUInt8) h rfl
  have htab := ne_of_isDigit (c := '\t'.toUInt8) h rfl
  have hreturn := ne_of_isDigit (c := '\r'.toUInt8) h rfl
  exact ⟨by simp [isBlank, hspace, hline, htab, hreturn], ne_of_isDigit h rfl⟩

theorem head_digit {b : UInt8} (h : isDigit b = true) (s : List UInt8) :
    head (b :: s) = (fun r => (Found.number r.1, r.2)) <$> number false (b :: s) := by
  have hn : b ≠ 'n'.toUInt8 := ne_of_isDigit h rfl
  have ht : b ≠ 't'.toUInt8 := ne_of_isDigit h rfl
  have hf : b ≠ 'f'.toUInt8 := ne_of_isDigit h rfl
  have hminus : b ≠ '-'.toUInt8 := ne_of_isDigit h rfl
  have hblank := (opens_of_isDigit h).1
  simp only [head, skipBlanks_cons hblank, if_neg hn, if_neg ht, if_neg hf, if_neg hminus, if_pos h]

theorem head_null : Takes head Json.null.chars .null :=
  fun _ _ => rfl

theorem head_bool (b : Bool) : Takes head (Json.bool b).chars (.bool b) := by
  intro s _
  cases b <;> rfl

theorem head_number {n : Int} (h : Number.Exact n) :
    Takes head (Number.integer n h).chars (.number (.integer n h)) := by
  intro s hs
  cases n with
  | ofNat n =>
    obtain ⟨b, bs, hbytes, hb⟩ := exists_encode_toDigits n
    have hlt : n < UInt64.size := Int.ofNat_lt.mp h.2
    have hread := number_digits hlt false hs
    rw [Number.chars, hbytes, List.cons_append, head_digit hb, ← List.cons_append, ← hbytes, hread]
    rw [show wholeNumber false n = .integer (Int.ofNat n) h from wholeNumber_of_nat h]
    rfl
  | negSucc n =>
    have hlow : (-0x8000000000000000 : Int) ≤ Int.negSucc n := h.1
    have hlt : n + 1 < UInt64.size := by
      rw [UInt64.size]
      omega
    have hread := number_digits hlt true hs
    have hminus : encode ('-' :: Nat.toDigits 10 (n + 1)) = '-'.toUInt8 :: encode (Nat.toDigits 10 (n + 1)) := rfl
    have hhead : ∀ s, head ('-'.toUInt8 :: s) = (fun r => (Found.number r.1, r.2)) <$> number true s :=
      fun s => rfl
    rw [Number.chars, hminus, List.cons_append, hhead, hread]
    rw [show wholeNumber true (n + 1) = .integer (Int.negSucc n) h from wholeNumber_of_neg (Nat.succ_pos n) h]
    rfl

theorem head_string (t : String) : Takes head (stringChars t) (.string t) := by
  intro s hs
  have hhead : ∀ s, head ('"'.toUInt8 :: s) = (fun r => (Found.string r.1, r.2)) <$> string s := fun s => rfl
  rw [encode_stringChars, List.cons_append, hhead, List.append_assoc, List.singleton_append, string_escape]
  rfl

theorem exists_opens : (v : Json) → v.Integral → ∃ b bs, encode v.chars = b :: bs ∧ Opens b
  | .null, _ => ⟨'n'.toUInt8, _, rfl, by decide, by decide⟩
  | .bool true, _ => ⟨'t'.toUInt8, _, rfl, by decide, by decide⟩
  | .bool false, _ => ⟨'f'.toUInt8, _, rfl, by decide, by decide⟩
  | .number (.integer (.ofNat n) _), _ => by
    obtain ⟨b, bs, hbytes, hb⟩ := exists_encode_toDigits n
    exact ⟨b, bs, hbytes, opens_of_isDigit hb⟩
  | .number (.integer (.negSucc n) _), _ => ⟨'-'.toUInt8, _, rfl, by decide, by decide⟩
  | .string t, _ => ⟨'"'.toUInt8, _, rfl, by decide, by decide⟩
  | .array [], _ => ⟨'['.toUInt8, _, rfl, by decide, by decide⟩
  | .array (_ :: _), _ => ⟨'['.toUInt8, _, rfl, by decide, by decide⟩
  | .object [], _ => ⟨'\x7b'.toUInt8, _, rfl, by decide, by decide⟩
  | .object (_ :: _), _ => ⟨'\x7b'.toUInt8, _, rfl, by decide, by decide⟩

theorem anotherItem_first {v : Json} (hv : v.Integral) (s : List UInt8) :
    anotherItem true (encode v.chars ++ s) = .ok (true, encode v.chars ++ s) := by
  obtain ⟨b, bs, hbytes, hblank, hend⟩ := exists_opens v hv
  rw [hbytes, List.cons_append]
  simp [anotherItem, skipBlanks_cons hblank, hend]

theorem anotherItem_next {v : Json} (hv : v.Integral) (s : List UInt8) :
    anotherItem false (','.toUInt8 :: (encode v.chars ++ s)) = .ok (true, encode v.chars ++ s) := by
  obtain ⟨b, bs, hbytes, hblank, hend⟩ := exists_opens v hv
  have hcomma : isBlank ','.toUInt8 = false := by decide
  have hmore : ','.toUInt8 ≠ ']'.toUInt8 := by decide
  rw [hbytes, List.cons_append]
  simp [anotherItem, skipBlanks_cons hcomma, skipBlanks_cons hblank, hmore, hend]

theorem stops_itemsChars (vs : List Json) (s : List UInt8) : Stops (encode (itemsChars vs) ++ s) := by
  cases vs with
  | nil =>
    rintro _ ⟨⟩
    decide
  | cons v vs =>
    rintro _ ⟨⟩
    decide

theorem encode_itemsChars_cons (v : Json) (vs : List Json) (s : List UInt8) :
    encode (itemsChars (v :: vs)) ++ s = ','.toUInt8 :: (encode v.chars ++ (encode (itemsChars vs) ++ s)) := by
  rw [itemsChars]
  simp

theorem encode_array_cons (v : Json) (vs : List Json) (s : List UInt8) :
    encode (Json.array (v :: vs)).chars ++ s =
      '['.toUInt8 :: (encode v.chars ++ (encode (itemsChars vs) ++ s)) := by
  rw [chars]
  simp

theorem length_itemsChars (vs : List Json) : vs.length < (encode (itemsChars vs)).length := by
  induction vs with
  | nil => decide
  | cons v vs ih =>
    have htext := congrArg List.length (encode_itemsChars_cons v vs [])
    simp only [List.append_nil, List.length_cons, List.length_append] at htext ⊢
    omega

variable {read : Reader Json}

theorem items_chars {vs : List Json} (hvs : ∀ v ∈ vs, v.Integral) (hread : ∀ v ∈ vs, Takes read v.chars v)
    {fuel : Nat} (hfuel : vs.length < fuel) (s : List UInt8) :
    items read false fuel (encode (itemsChars vs) ++ s) = .ok (vs, ']'.toUInt8 :: s) := by
  induction vs generalizing fuel with
  | nil =>
    cases fuel with
    | zero => cases hfuel
    | succ fuel => rfl
  | cons v vs ih =>
    cases fuel with
    | zero => cases hfuel
    | succ fuel =>
      have hfirst := hvs v List.mem_cons_self
      have hitem := hread v List.mem_cons_self _ (stops_itemsChars vs s)
      have hrest := ih (fun v hv => hvs v (List.mem_cons_of_mem _ hv))
        (fun v hv => hread v (List.mem_cons_of_mem _ hv)) (Nat.lt_of_succ_lt_succ hfuel)
      simp only [items, encode_itemsChars_cons, anotherItem_next hfirst, hitem, hrest, bind, Except.bind, if_true]

theorem listFrom_chars {vs : List Json} (hvs : ∀ v ∈ vs, v.Integral) (hread : ∀ v ∈ vs, Takes read v.chars v)
    (s : List UInt8) : listFrom read (encode (Json.array vs).chars ++ s) = .ok (vs, s) := by
  cases vs with
  | nil => rfl
  | cons v vs =>
    have hfirst := hvs v List.mem_cons_self
    have hitem := hread v List.mem_cons_self _ (stops_itemsChars vs s)
    have hfuel : vs.length < (encode v.chars ++ (encode (itemsChars vs) ++ s)).length := by
      have hlt := length_itemsChars vs
      simp only [List.length_append]
      omega
    have hrest := items_chars (fun v hv => hvs v (List.mem_cons_of_mem _ hv))
      (fun v hv => hread v (List.mem_cons_of_mem _ hv)) hfuel s
    simp only [listFrom, encode_array_cons, List.length_cons, List.drop_succ_cons, List.drop_zero, items,
      anotherItem_first hfirst, hitem, hrest, bind, Except.bind, if_true]
    rfl

theorem anotherMember_first (name : String) (s : List UInt8) :
    anotherMember true (encode (stringChars name) ++ s) = .ok (true, encode (stringChars name) ++ s) := by
  rw [encode_stringChars]
  rfl

theorem anotherMember_next (name : String) (s : List UInt8) :
    anotherMember false (','.toUInt8 :: (encode (stringChars name) ++ s)) =
      .ok (true, encode (stringChars name) ++ s) := by
  rw [encode_stringChars]
  rfl

@[simp] theorem string_stringChars (name : String) (s : List UInt8) :
    string ((encode (stringChars name) ++ s).drop 1) = .ok (name, s) := by
  simp [encode_stringChars, string_escape]

@[simp] theorem colon_colon (s : List UInt8) : colon (':'.toUInt8 :: s) = .ok s :=
  rfl

theorem stops_membersChars (ms : List (String × Json)) (s : List UInt8) :
    Stops (encode (membersChars ms) ++ s) := by
  cases ms with
  | nil =>
    rintro _ ⟨⟩
    decide
  | cons m ms =>
    obtain ⟨name, v⟩ := m
    rintro _ ⟨⟩
    decide

theorem encode_membersChars_cons (name : String) (v : Json) (ms : List (String × Json)) (s : List UInt8) :
    encode (membersChars ((name, v) :: ms)) ++ s = ','.toUInt8 :: (encode (stringChars name) ++
      ':'.toUInt8 :: (encode v.chars ++ (encode (membersChars ms) ++ s))) := by
  rw [membersChars]
  simp

theorem encode_object_cons (name : String) (v : Json) (ms : List (String × Json)) (s : List UInt8) :
    encode (Json.object ((name, v) :: ms)).chars ++ s = '\x7b'.toUInt8 :: (encode (stringChars name) ++
      ':'.toUInt8 :: (encode v.chars ++ (encode (membersChars ms) ++ s))) := by
  rw [chars]
  simp

theorem length_membersChars (ms : List (String × Json)) : ms.length < (encode (membersChars ms)).length := by
  induction ms with
  | nil => decide
  | cons m ms ih =>
    obtain ⟨name, v⟩ := m
    have htext := congrArg List.length (encode_membersChars_cons name v ms [])
    simp only [List.append_nil, List.length_cons, List.length_append] at htext ⊢
    omega

theorem members_chars {ms : List (String × Json)} (hread : ∀ p ∈ ms, Takes read p.2.chars p.2) {fuel : Nat}
    (hfuel : ms.length < fuel) (s : List UInt8) :
    members read false fuel (encode (membersChars ms) ++ s) = .ok (ms, '\x7d'.toUInt8 :: s) := by
  induction ms generalizing fuel with
  | nil =>
    cases fuel with
    | zero => cases hfuel
    | succ fuel => rfl
  | cons m ms ih =>
    obtain ⟨name, v⟩ := m
    cases fuel with
    | zero => cases hfuel
    | succ fuel =>
      have hvalue := hread (name, v) List.mem_cons_self _ (stops_membersChars ms s)
      have hrest := ih (fun p hp => hread p (List.mem_cons_of_mem _ hp)) (Nat.lt_of_succ_lt_succ hfuel)
      simp only [members, encode_membersChars_cons, anotherMember_next, string_stringChars, colon_colon, hvalue,
        hrest, bind, Except.bind, if_true]

theorem objectFrom_chars {ms : List (String × Json)} (hread : ∀ p ∈ ms, Takes read p.2.chars p.2)
    (s : List UInt8) : objectFrom read (encode (Json.object ms).chars ++ s) = .ok (ms, s) := by
  cases ms with
  | nil => rfl
  | cons m ms =>
    obtain ⟨name, v⟩ := m
    have hvalue := hread (name, v) List.mem_cons_self _ (stops_membersChars ms s)
    have hfuel : ms.length < (encode (stringChars name) ++
        ':'.toUInt8 :: (encode v.chars ++ (encode (membersChars ms) ++ s))).length := by
      have hlt := length_membersChars ms
      simp only [List.length_cons, List.length_append]
      omega
    have hrest := members_chars (fun p hp => hread p (List.mem_cons_of_mem _ hp)) hfuel s
    simp only [objectFrom, encode_object_cons, List.length_cons, List.drop_succ_cons, List.drop_zero, members,
      anotherMember_first, string_stringChars, colon_colon, hvalue, hrest, bind, Except.bind, if_true]
    rfl

theorem head_array (vs : List Json) (s : List UInt8) :
    head (encode (Json.array vs).chars ++ s) = .ok (.sequence, encode (Json.array vs).chars ++ s) := by
  cases vs with
  | nil => rfl
  | cons v vs => rfl

theorem head_object (ms : List (String × Json)) (s : List UInt8) :
    head (encode (Json.object ms).chars ++ s) = .ok (.map, encode (Json.object ms).chars ++ s) := by
  cases ms with
  | nil => rfl
  | cons m ms => rfl

theorem allIntegral_iff (vs : List Json) : AllIntegral vs ↔ ∀ v ∈ vs, v.Integral := by
  induction vs with
  | nil => simp [AllIntegral]
  | cons v vs ih => simp [AllIntegral, ih]

theorem value_takes_scalar {cs : List Char} {found : Found} {v : Json} (h : Takes head cs found)
    (hscalar : ∀ inside s, afterHead inside found s = .ok (v, s)) (depth : Nat) : Takes (value depth) cs v := by
  intro s hs
  cases depth with
  | zero =>
    rw [value, h s hs]
    exact hscalar none s
  | succ depth =>
    rw [value, h s hs]
    exact hscalar (some (value depth)) s

mutual

theorem value_chars : (v : Json) → {depth : Nat} → v.Integral → v.nesting ≤ depth →
    Takes (value depth) v.chars v
  | .null, depth, _, _ => value_takes_scalar head_null (fun _ _ => rfl) depth
  | .bool b, depth, _, _ => value_takes_scalar (head_bool b) (fun _ _ => rfl) depth
  | .number (.integer _ exact), depth, _, _ => value_takes_scalar (head_number exact) (fun _ _ => rfl) depth
  | .string t, depth, _, _ => value_takes_scalar (head_string t) (fun _ _ => rfl) depth
  | .array vs, 0, hv, hd => by
    simp [nesting] at hd
  | .array vs, depth + 1, hv, hd => by
    intro s _
    have hlist := listFrom_chars ((allIntegral_iff vs).mp hv) (items_takes vs hv (Nat.le_of_succ_le_succ hd)) s
    simp only [value, head_array, afterHead, hlist, bind, Except.bind]
    rfl
  | .object ms, 0, hv, hd => by
    simp [nesting] at hd
  | .object ms, depth + 1, hv, hd => by
    intro s _
    have hobject := objectFrom_chars (members_take ms hv (Nat.le_of_succ_le_succ hd)) s
    simp only [value, head_object, afterHead, hobject, bind, Except.bind]
    rfl

theorem items_takes : (vs : List Json) → {depth : Nat} → AllIntegral vs → itemsNesting vs ≤ depth →
    ∀ v ∈ vs, Takes (value depth) v.chars v
  | [], _, _, _ => fun v hv => by cases hv
  | v :: vs, depth, hvs, hd => by
    intro w hw
    have hfirst : v.nesting ≤ depth := Nat.le_trans (Nat.le_max_left _ _) hd
    have hrest : itemsNesting vs ≤ depth := Nat.le_trans (Nat.le_max_right _ _) hd
    rcases List.mem_cons.mp hw with heq | hw
    · rw [heq]
      exact value_chars v hvs.1 hfirst
    · exact items_takes vs hvs.2 hrest w hw

theorem members_take : (ms : List (String × Json)) → {depth : Nat} → MembersIntegral ms →
    membersNesting ms ≤ depth → ∀ p ∈ ms, Takes (value depth) p.2.chars p.2
  | [], _, _, _ => fun p hp => by cases hp
  | (name, v) :: ms, depth, hms, hd => by
    intro p hp
    have hfirst : v.nesting ≤ depth := Nat.le_trans (Nat.le_max_left _ _) hd
    have hrest : membersNesting ms ≤ depth := Nat.le_trans (Nat.le_max_right _ _) hd
    rcases List.mem_cons.mp hp with heq | hp
    · rw [heq]
      exact value_chars v hms.1 hfirst
    · exact members_take ms hms.2 hrest p hp

end

end Reader

end GatedStore.Json
