import GatedStore.Proofs.ListPairs
import GatedStore.Proofs.PayloadText
import GatedStore.Proofs.RecordText
import GatedStore.Service.Desk

/-! The shapes of a removal: an object with one id, an object with a list of ids, or an id that stands alone. The
first shape that the body has decides, also when the ids in it cannot be read. -/

namespace GatedStore

namespace Results

variable {α β : Type}

theorem mapM_eq_some_iff {f : α → Option β} {as : List α} {bs : List β} :
    as.mapM f = some bs ↔ List.Forall₂ (fun a b => f a = some b) as bs := by
  induction as generalizing bs with
  | nil => simp [eq_comm]
  | cons a as ih =>
    simp only [List.mapM_cons, Option.bind_eq_bind, Option.bind_eq_some_iff, ih, List.forall₂_cons_left_iff]
    constructor
    · rintro ⟨b, hb, bs', hbs, heq⟩
      exact ⟨b, bs', hb, hbs, (Option.some.inj heq).symm⟩
    · rintro ⟨b, bs', hb, hbs, rfl⟩
      exact ⟨b, hb, bs', hbs, rfl⟩

end Results

namespace Body

open Json (OnlyMember)
open Json.Reader (document ofBytes value)
open Text.Utf8 (encode)
open Results

def IsId (v : Json) : Prop :=
  (∃ id, v = .ofUInt64 id) ∨ ∃ t, v = .string t

inductive PartReads (part : List Char) : Except Problem ResourceId → Prop
  | id {id : ResourceId} (h : ResourceId.read (String.ofList part) = .ok id) : PartReads part (.ok id)
  | none {e : Text.NumeralError} (h : ResourceId.read (String.ofList part) = .error e) :
      PartReads part (.error (.notAnId (String.ofList (Text.trim part))))

/-- The ids of a value: of a text those between its commas, up to the first part that is none. -/
inductive Expands : Json → Except Problem (List ResourceId) → Prop
  | number (id : ResourceId) : Expands (.ofUInt64 id) (.ok [id])
  | text {t : String} {r : Except Problem (List ResourceId)} (h : InOrder PartReads (t.toList.splitOn ',') r) :
      Expands (.string t) r

namespace Removal

def HasId (v w : Json) : Prop :=
  ∃ ms, v = .object ms ∧ OnlyMember "id" w ms ∧ IsId w

def HasIds (v : Json) (ws : List Json) : Prop :=
  ∃ ms, v = .object ms ∧ OnlyMember "ids" (.array ws) ms ∧ ∀ w ∈ ws, IsId w

def unfit : Problem :=
  .unreadable "an id, a list of ids or \x7b\"ids\": [..]\x7d"
    "data did not match any variant of untagged enum RemoveBody"

/-- What a value asks to remove, by the first of the shapes that it has. -/
inductive Removes (v : Json) : Except Problem (List ResourceId) → Prop
  | id {w : Json} {r : Except Problem (List ResourceId)} (hid : HasId v w) (h : Expands w r) : Removes v r
  | ids {ws : List Json} {parts : List (List ResourceId)} (hid : ¬ ∃ w, HasId v w) (hids : HasIds v ws)
      (hne : ws ≠ []) (h : InOrder Expands ws (.ok parts)) : Removes v (.ok parts.flatten)
  | noIds (hid : ¬ ∃ w, HasId v w) (hids : HasIds v []) : Removes v (.error .noIds)
  | failing {ws : List Json} {p : Problem} (hid : ¬ ∃ w, HasId v w) (hids : HasIds v ws)
      (h : InOrder Expands ws (.error p)) : Removes v (.error p)
  | alone {r : Except Problem (List ResourceId)} (hv : IsId v) (h : Expands v r) : Removes v r
  | other (hid : ¬ ∃ w, HasId v w) (hids : ¬ ∃ ws, HasIds v ws) (hv : ¬ IsId v) : Removes v (.error unfit)

end Removal

theorem isId_iff {v : Json} : IsId v ↔ ∃ e, IdEntry.ofJson? v = some e := by
  simp only [IdEntry.ofJson?_eq_some_iff]
  constructor
  · rintro (⟨id, rfl⟩ | ⟨t, rfl⟩)
    · exact ⟨_, Or.inl ⟨id, rfl, rfl⟩⟩
    · exact ⟨_, Or.inr ⟨t, rfl, rfl⟩⟩
  · rintro ⟨e, ⟨id, hv, -⟩ | ⟨t, hv, -⟩⟩
    · exact Or.inl ⟨id, hv⟩
    · exact Or.inr ⟨t, hv⟩

theorem readPart_eq_of_partReads {part : List Char} {r : Except Problem ResourceId} (h : PartReads part r) :
    IdEntry.readPart part = r := by
  cases h with
  | id h => rw [IdEntry.readPart, h]; rfl
  | none h => rw [IdEntry.readPart, h]; rfl

theorem PartReads.total (part : List Char) : ∃ r, PartReads part r := by
  cases h : ResourceId.read (String.ofList part) with
  | ok id => exact ⟨_, .id h⟩
  | error e => exact ⟨_, .none h⟩

theorem readParts_eq_of_inOrder {parts : List (List Char)} {r : Except Problem (List ResourceId)}
    (h : InOrder PartReads parts r) : IdEntry.readParts parts = r := by
  induction h with
  | nil => rfl
  | cons h _ ih => rw [IdEntry.readParts, readPart_eq_of_partReads h, ih]; rfl
  | first h => rw [IdEntry.readParts, readPart_eq_of_partReads h]; rfl
  | later h _ ih => rw [IdEntry.readParts, readPart_eq_of_partReads h, ih]; rfl

theorem Expands.ids_eq {v : Json} {r : Except Problem (List ResourceId)} (h : Expands v r) {e : IdEntry}
    (he : IdEntry.ofJson? v = some e) : e.ids = r := by
  rcases IdEntry.ofJson?_eq_some_iff.mp he with ⟨id, rfl, rfl⟩ | ⟨t, rfl, rfl⟩
  · generalize hv : Json.ofUInt64 id = v at h
    cases h with
    | number id' =>
      have hid := (Json.natural?_eq_some_iff.mpr rfl).symm.trans (Json.natural?_eq_some_iff.mpr hv.symm)
      rw [IdEntry.ids, Option.some.inj hid]
    | text h => cases hv
  · generalize hv : Json.string t = v at h
    cases h with
    | number id => cases hv
    | text h =>
      cases hv
      exact readParts_eq_of_inOrder h

theorem Expands.total {v : Json} (h : IsId v) : ∃ r, Expands v r := by
  rcases h with ⟨id, rfl⟩ | ⟨t, rfl⟩
  · exact ⟨_, .number id⟩
  · obtain ⟨r, hr⟩ := InOrder.total fun part (_ : part ∈ t.toList.splitOn ',') => PartReads.total part
    exact ⟨r, .text hr⟩

theorem Expands.ne_nil {v : Json} {ids : List ResourceId} (h : Expands v (.ok ids)) : ids ≠ [] := by
  cases h with
  | number id => exact List.cons_ne_nil _ _
  | text h =>
    rintro rfl
    exact List.splitOn_ne_nil ',' _ h.eq_nil

namespace Removal

theorem concat_eq_of_inOrder {ws : List Json} {es : List IdEntry} {r : Except Problem (List (List ResourceId))}
    (h : InOrder Expands ws r) (hes : List.Forall₂ (fun w e => IdEntry.ofJson? w = some e) ws es) :
    concat es = r.map List.flatten := by
  induction h generalizing es with
  | nil =>
    cases hes
    rfl
  | cons h _ ih =>
    obtain ⟨e, es', he, hrest, rfl⟩ := List.forall₂_cons_left_iff.mp hes
    rw [concat, h.ids_eq he, ih hrest]
    rfl
  | first h =>
    obtain ⟨e, es', he, -, rfl⟩ := List.forall₂_cons_left_iff.mp hes
    rw [concat, h.ids_eq he]
    rfl
  | later h _ ih =>
    obtain ⟨e, es', he, hrest, rfl⟩ := List.forall₂_cons_left_iff.mp hes
    rw [concat, h.ids_eq he, ih hrest]
    rfl

theorem only?_eq_some_iff {name : String} {v : Json} {ms : List (String × Json)} :
    only? name ms = some v ↔ OnlyMember name v ms := by
  rw [Json.onlyMember_iff, only?]
  constructor
  · intro h
    split at h
    · rename_i name' v' hfilter
      obtain rfl := Option.some.inj h
      have hname : (name', v') ∈ ms.filter (·.1 == name) := hfilter ▸ List.mem_singleton_self _
      rw [hfilter, show name' = name by simpa using (List.mem_filter.mp hname).2]
    · cases h
  · intro h
    rw [h]

theorem ofJson?_of_hasId {v w : Json} (h : HasId v w) :
    ∃ e, IdEntry.ofJson? w = some e ∧ ofJson? v = some (.one e) := by
  obtain ⟨ms, rfl, honly, hw⟩ := h
  obtain ⟨e, he⟩ := isId_iff.mp hw
  exact ⟨e, he, by simp [ofJson?, one?, only?_eq_some_iff.mpr honly, he]⟩

theorem one?_eq_none {v : Json} (h : ¬ ∃ w, HasId v w) : one? v = none := by
  rw [Option.eq_none_iff_forall_ne_some]
  intro r hr
  cases v with
  | object ms =>
    obtain ⟨e, he, -⟩ := Option.map_eq_some_iff.mp hr
    obtain ⟨w, hw, he⟩ := Option.bind_eq_some_iff.mp he
    exact h ⟨w, ms, rfl, only?_eq_some_iff.mp hw, isId_iff.mpr ⟨e, he⟩⟩
  | null | bool _ | number _ | string _ | array _ => cases hr

theorem idList?_eq_some_iff {v : Json} {es : List IdEntry} : idList? v = some es ↔
    ∃ ws, v = .array ws ∧ List.Forall₂ (fun w e => IdEntry.ofJson? w = some e) ws es := by
  cases v with
  | array ws => simp [idList?, mapM_eq_some_iff]
  | null | bool _ | number _ | string _ | object _ => simp [idList?]

theorem exists_entries {ws : List Json} (h : ∀ w ∈ ws, IsId w) :
    ∃ es, List.Forall₂ (fun w e => IdEntry.ofJson? w = some e) ws es := by
  induction ws with
  | nil => exact ⟨[], .nil⟩
  | cons w ws ih =>
    obtain ⟨hw, hws⟩ := List.forall_mem_cons.mp h
    obtain ⟨e, he⟩ := isId_iff.mp hw
    obtain ⟨es, hes⟩ := ih hws
    exact ⟨e :: es, .cons he hes⟩

theorem many?_eq_none {v : Json} (h : ¬ ∃ ws, HasIds v ws) : many? v = none := by
  rw [Option.eq_none_iff_forall_ne_some]
  intro r hr
  cases v with
  | object ms =>
    obtain ⟨es, hes, -⟩ := Option.map_eq_some_iff.mp hr
    obtain ⟨w, hw, hes⟩ := Option.bind_eq_some_iff.mp hes
    obtain ⟨ws, rfl, hpairs⟩ := idList?_eq_some_iff.mp hes
    refine h ⟨ws, ms, rfl, only?_eq_some_iff.mp hw, fun w hw => ?_⟩
    obtain ⟨e, -, he⟩ := exists_right_of_forall₂ hpairs hw
    exact isId_iff.mpr ⟨e, he⟩
  | null | bool _ | number _ | string _ | array _ => cases hr

theorem ofJson?_of_hasIds {v : Json} {ws : List Json} (hid : ¬ ∃ w, HasId v w) (h : HasIds v ws) :
    ∃ es, List.Forall₂ (fun w e => IdEntry.ofJson? w = some e) ws es ∧ ofJson? v = some (.many es) := by
  have hone := one?_eq_none hid
  obtain ⟨ms, rfl, honly, hws⟩ := h
  obtain ⟨es, hes⟩ := exists_entries hws
  have hlist := idList?_eq_some_iff.mpr ⟨ws, rfl, hes⟩
  exact ⟨es, hes, by simp [ofJson?, hone, many?, only?_eq_some_iff.mpr honly, hlist]⟩

theorem ofJson?_of_isId {v : Json} (h : IsId v) : ∃ e, IdEntry.ofJson? v = some e ∧ ofJson? v = some (.one e) := by
  obtain ⟨e, he⟩ := isId_iff.mp h
  have hbare : ofJson? v = bare? v := by
    rcases h with ⟨id, rfl⟩ | ⟨t, rfl⟩ <;> rfl
  exact ⟨e, he, by rw [hbare, bare?, he]; rfl⟩

def outcome : Option Removal → Except Problem (List ResourceId)
  | none => .error unfit
  | some r => do
    let ids ← r.ids
    if ids.isEmpty then .error .noIds else .ok ids

theorem outcome_one {w : Json} {e : IdEntry} {r : Except Problem (List ResourceId)} (h : Expands w r)
    (he : IdEntry.ofJson? w = some e) : outcome (some (.one e)) = r := by
  rw [outcome, Removal.ids, h.ids_eq he]
  cases r with
  | error p => rfl
  | ok ids => exact if_neg (by simpa using h.ne_nil)

theorem flatten_ne_nil {ws : List Json} {parts : List (List ResourceId)} (hne : ws ≠ [])
    (h : InOrder Expands ws (.ok parts)) : parts.flatten ≠ [] := by
  cases h with
  | nil => exact absurd rfl hne
  | cons h _ => exact List.append_ne_nil_of_left_ne_nil h.ne_nil _

theorem outcome_of_removes {v : Json} {r : Except Problem (List ResourceId)} (h : Removes v r) :
    outcome (ofJson? v) = r := by
  cases h with
  | id hid h =>
    obtain ⟨e, he, hv⟩ := ofJson?_of_hasId hid
    rw [hv, outcome_one h he]
  | ids hid hids hne h =>
    obtain ⟨es, hes, hv⟩ := ofJson?_of_hasIds hid hids
    rw [hv, outcome, Removal.ids, concat_eq_of_inOrder h hes]
    exact if_neg (by simpa using flatten_ne_nil hne h)
  | noIds hid hids =>
    obtain ⟨es, hes, hv⟩ := ofJson?_of_hasIds hid hids
    cases hes
    rw [hv]
    rfl
  | failing hid hids h =>
    obtain ⟨es, hes, hv⟩ := ofJson?_of_hasIds hid hids
    rw [hv, outcome, Removal.ids, concat_eq_of_inOrder h hes]
    rfl
  | alone hv h =>
    obtain ⟨e, he, hv⟩ := ofJson?_of_isId hv
    rw [hv, outcome_one h he]
  | other hid hids hv =>
    have hbare : bare? v = none := by
      rw [bare?, Option.map_eq_none_iff, Option.eq_none_iff_forall_ne_some]
      exact fun e he => hv (isId_iff.mpr ⟨e, he⟩)
    rw [ofJson?, one?_eq_none hid, many?_eq_none hids, hbare]
    rfl

theorem Removes.total (v : Json) : ∃ r, Removes v r := by
  by_cases hid : ∃ w, HasId v w
  · obtain ⟨w, hid⟩ := hid
    obtain ⟨r, hr⟩ := Expands.total hid.choose_spec.2.2
    exact ⟨r, .id hid hr⟩
  by_cases hids : ∃ ws, HasIds v ws
  · obtain ⟨ws, hids⟩ := hids
    obtain ⟨r, hr⟩ := InOrder.total fun w hw => Expands.total (hids.choose_spec.2.2 w hw)
    cases r with
    | error p => exact ⟨_, .failing hid hids hr⟩
    | ok parts =>
      by_cases hws : ws = []
      · subst hws
        exact ⟨_, .noIds hid hids⟩
      · exact ⟨_, .ids hid hids hws hr⟩
  by_cases hv : IsId v
  · obtain ⟨r, hr⟩ := Expands.total hv
    exact ⟨r, .alone hv hr⟩
  · exact ⟨_, .other hid hids hv⟩

theorem outcome_eq_iff {v : Json} {r : Except Problem (List ResourceId)} :
    outcome (ofJson? v) = r ↔ Removes v r := by
  constructor
  · rintro rfl
    obtain ⟨r, hr⟩ := Removes.total v
    rw [outcome_of_removes hr]
    exact hr
  · exact outcome_of_removes

theorem document_eq {depth : Nat} {body s : List UInt8} {v : Json} (hv : value depth body = .ok (v, s))
    (hend : Json.Reader.skipBlanks s = []) : document (Removal.read depth) body =
      (ofJson? v).elim (.error (.pending (.noVariant "RemoveBody") s)) .ok := by
  simp only [document, Removal.read, hv, bind, Except.bind]
  cases hr : ofJson? v with
  | none => rfl
  | some r =>
    simp only [hend]
    rfl

end Removal

theorem remove_of_ofBytes {body : List UInt8} {v : Json} (h : ofBytes body = .ok v) :
    remove body = Removal.outcome (Removal.ofJson? v) := by
  obtain ⟨s, hvalue, hend⟩ := Json.Reader.document_eq_ok_iff.mp h
  have hblank : ¬ body.all isBlank = true := by simp [not_blank_of_ofBytes h]
  rw [remove, parse, if_neg hblank, Removal.document_eq hvalue hend]
  cases Removal.ofJson? v with
  | none => rfl
  | some r => rfl

theorem remove_eq_iff {body : List UInt8} {v : Json} (h : ofBytes body = .ok v)
    {r : Except Problem (List ResourceId)} : remove body = r ↔ Removal.Removes v r := by
  rw [remove_of_ofBytes h, Removal.outcome_eq_iff]

theorem exists_problem_of_unread {body : List UInt8} {f : Json.Fault} (h : ofBytes body = .error f) :
    ∃ p, remove body = .error p := by
  cases hr : remove body with
  | error p => exact ⟨p, rfl⟩
  | ok ids =>
    obtain ⟨-, r, -, hdocument, -⟩ := remove_eq_ok hr
    obtain ⟨s, hread, hend⟩ := Json.Reader.document_eq_ok_iff.mp hdocument
    obtain ⟨⟨v, s'⟩, hvalue, hrest⟩ := bind_eq_ok_iff.mp hread
    obtain rfl : s' = s := by
      simp only at hrest
      split at hrest <;> cases hrest
      rfl
    have hbytes : ofBytes body = .ok v := Json.Reader.document_eq_ok_iff.mpr ⟨s', hvalue, hend⟩
    exact absurd (h.symm.trans hbytes) nofun

namespace Removal

theorem hasId_of_single {w : Json} (h : IsId w) : HasId (.object [("id", w)]) w :=
  ⟨_, rfl, ⟨[], [], rfl, nofun⟩, h⟩

theorem not_hasId_of_ids (w : Json) : ¬ ∃ u, HasId (.object [("ids", w)]) u := by
  rintro ⟨u, ms, heq, honly, -⟩
  obtain rfl := Json.object.inj heq
  simp [Json.onlyMember_iff] at honly

theorem hasIds_of_single {ws : List Json} (h : ∀ w ∈ ws, IsId w) : HasIds (.object [("ids", .array ws)]) ws :=
  ⟨_, rfl, ⟨[], [], rfl, nofun⟩, h⟩

theorem removes_listed {ws : List Json} (hws : ∀ w ∈ ws, IsId w) (hne : ws ≠ [])
    {r : Except Problem (List (List ResourceId))} (h : InOrder Expands ws r) :
    Removes (.object [("ids", .array ws)]) (r.map List.flatten) := by
  have hid := not_hasId_of_ids (.array ws)
  have hids := hasIds_of_single hws
  cases r with
  | error p => exact .failing hid hids h
  | ok parts => exact .ids hid hids hne h

end Removal

theorem remove_shapes :
    (∀ body v, ofBytes body = .ok v → ∀ r, remove body = r ↔ Removal.Removes v r) ∧
    (∀ body f, ofBytes body = .error f → ∃ p, remove body = .error p) ∧
    (∀ body f, Desk.ofBody (remove body) = .error f → ∃ reason, f = .invalidPayload reason) ∧
    (∀ w, IsId w → ∀ inside alone listed, ofBytes inside = .ok (.object [("id", w)]) → ofBytes alone = .ok w →
      ofBytes listed = .ok (.object [("ids", .array [w])]) →
        remove inside = remove alone ∧ remove listed = remove alone) ∧
    (∀ us ws, us ++ ws ≠ [] → (∀ w ∈ us ++ ws, IsId w) → ∀ both,
      ofBytes both = .ok (.object [("ids", .array (us ++ ws))]) →
        ∀ r r', InOrder Expands us r → InOrder Expands ws r' →
          remove both = (r >>= fun parts => r'.map (parts ++ ·)).map List.flatten) ∧
    ∀ us ws, us ≠ [] → ws ≠ [] → (∀ w ∈ us ++ ws, IsId w) → ∀ left right both,
      ofBytes left = .ok (.object [("ids", .array us)]) → ofBytes right = .ok (.object [("ids", .array ws)]) →
      ofBytes both = .ok (.object [("ids", .array (us ++ ws))]) →
        remove both = remove left >>= fun ids => (remove right).map (ids ++ ·) := by
  have hlist : ∀ us, us ≠ [] → (∀ w ∈ us, IsId w) → ∀ body, ofBytes body = .ok (.object [("ids", .array us)]) →
      ∀ r, InOrder Expands us r → remove body = r.map List.flatten := fun us hne hus body hbody r hr =>
    (remove_eq_iff hbody).mpr (Removal.removes_listed hus hne hr)
  refine ⟨fun body v h r => remove_eq_iff h, fun body f => exists_problem_of_unread, fun body f hf => ?_,
    fun w hw inside alone listed hinside halone hlisted => ?_,
    fun us ws hne hids both hboth r r' hr hr' => hlist _ hne hids both hboth _ (hr.append hr'),
    fun us ws hus hws hids left right both hleft hright hboth => ?_⟩
  · obtain ⟨p, -, rfl⟩ := mapError_eq_error_iff.mp hf
    exact ⟨_, rfl⟩
  · obtain ⟨r, hr⟩ := Expands.total hw
    have halone : remove alone = r := (remove_eq_iff halone).mpr (.alone hw hr)
    have hinside : remove inside = r := (remove_eq_iff hinside).mpr (.id (Removal.hasId_of_single hw) hr)
    have hsingle : ∀ u ∈ [w], IsId u := fun u hu => List.mem_singleton.mp hu ▸ hw
    have hlisted := hlist [w] (List.cons_ne_nil _ _) hsingle listed hlisted _ (.single hr)
    rw [hinside, hlisted, halone]
    cases r with
    | error p => exact ⟨rfl, rfl⟩
    | ok ids => exact ⟨rfl, congrArg Except.ok List.flatten_singleton⟩
  · have hfirst : ∀ w ∈ us, IsId w := fun w hw => hids w (List.mem_append_left _ hw)
    have hsecond : ∀ w ∈ ws, IsId w := fun w hw => hids w (List.mem_append_right _ hw)
    obtain ⟨r, hr⟩ := InOrder.total fun w hw => Expands.total (hfirst w hw)
    obtain ⟨r', hr'⟩ := InOrder.total fun w hw => Expands.total (hsecond w hw)
    rw [hlist us hus hfirst left hleft r hr, hlist ws hws hsecond right hright r' hr',
      hlist (us ++ ws) (List.append_ne_nil_of_left_ne_nil hus _) hids both hboth _ (hr.append hr')]
    cases r with
    | error p => rfl
    | ok parts =>
      cases r' with
      | error p => rfl
      | ok parts' => exact congrArg Except.ok List.flatten_append

theorem remove_id_before_ids :
    remove (encode (Json.object [("ids", .array [.ofUInt64 1]), ("id", .string "2,x")]).chars) =
        .error (.notAnId "x") ∧
      (∃ p, remove ['\x7b'.toUInt8] = .error p) ∧
      (∃ reason, Failure.invalidPayload "empty body" = .invalidPayload reason) ∧
      (remove (encode (Json.object [("id", .string "2,x")]).chars) = remove (encode (Json.string "2,x").chars) ∧
        remove (encode (Json.object [("ids", .array [.string "2,x"])]).chars) =
          remove (encode (Json.string "2,x").chars)) ∧
      remove (encode (Json.object [("ids", .array [.ofUInt64 1])]).chars) = .ok [1] ∧
      remove (encode (Json.object [("ids", .array [.ofUInt64 1, .string "3, 2"])]).chars) =
        remove (encode (Json.object [("ids", .array [.ofUInt64 1])]).chars) >>= fun ids =>
          (remove (encode (Json.object [("ids", .array [.string "3, 2"])]).chars)).map (ids ++ ·) := by
  have hbytes : ∀ v : Json, v.Integral → v.nesting ≤ Json.Reader.depthLimit → ofBytes (encode v.chars) = .ok v :=
    fun _ => Json.Reader.ofBytes_chars
  have honly : Json.OnlyMember "id" (Json.string "2,x") [("ids", .array [.ofUInt64 1]), ("id", .string "2,x")] :=
    Json.onlyMember_iff.mpr rfl
  have htwo : PartReads ['2'] (.ok 2) := .id rfl
  have hexpands : Expands (.string "2,x") (.error (.notAnId "x")) :=
    .text (.later htwo (.first (.none (e := .invalidDigit) rfl)))
  have htext : ∀ t, IsId (.string t) := fun t => Or.inr ⟨t, rfl⟩
  obtain ⟨hremoves, hunread, hinvalid, hsame, hexpand, hconcat⟩ := remove_shapes
  refine ⟨?_, ?_, ?_, ?_, ?_, ?_⟩
  · have hbody := hbytes (.object [("ids", .array [.ofUInt64 1]), ("id", .string "2,x")])
      ⟨⟨trivial, trivial⟩, trivial, trivial⟩ (by decide)
    exact (hremoves _ _ hbody _).mpr (.id ⟨_, rfl, honly, htext _⟩ hexpands)
  · exact hunread _ _ rfl
  · exact hinvalid [] _ rfl
  · exact hsame _ (htext _) _ _ _ (hbytes _ ⟨trivial, trivial⟩ (by decide)) (hbytes _ trivial (by decide))
      (hbytes _ ⟨⟨trivial, trivial⟩, trivial⟩ (by decide))
  · exact hexpand [] [.ofUInt64 1] (List.cons_ne_nil _ _) (by simp [IsId]) _
      (hbytes _ ⟨⟨trivial, trivial⟩, trivial⟩ (by decide)) _ _ .nil (.cons (.number 1) .nil)
  · refine hconcat [.ofUInt64 1] [.string "3, 2"] (List.cons_ne_nil _ _) (List.cons_ne_nil _ _) ?_ _ _ _
      (hbytes _ ⟨⟨trivial, trivial⟩, trivial⟩ (by decide)) (hbytes _ ⟨⟨trivial, trivial⟩, trivial⟩ (by decide))
      (hbytes _ ⟨⟨trivial, trivial, trivial⟩, trivial⟩ (by decide))
    simp [IsId]

end Body

end GatedStore
