import GatedStore.Proofs.EditGrammar
import GatedStore.Proofs.RemovalShapes
import GatedStore.Proofs.ServiceRoutes
import Mathlib.Data.List.TFAE

namespace GatedStore

open Json.Reader (ofBytes ofBytes_chars)
open Results
open Text.Utf8 (encode)

def PathNames (kind : Kind) (t : String) (id : ResourceId) : Prop :=
  ∃ p params, Pattern.parse "/orders/\x7bid\x7d" = .ok p ∧
    p.bind? (Path.segments ("/orders/" ++ t)) = some params ∧ Desk.pathId kind params = .ok id

variable {kind : Kind} {t : String} {id : ResourceId} {body : List UInt8}

theorem Desk.pathId_single : pathId kind (Table.ofList [("id", t)]) = .ok id ↔ ResourceId.read t = .ok id := by
  have hraw : (Table.ofList [("id", t)]).get? "id" = some t := rfl
  rw [pathId, hraw, Option.getD_some, mapError_eq_ok_iff]

theorem Path.segments_orders (ht : IsSegment t) : segments ("/orders/" ++ t) = ["orders", t] := by
  have hwords : segments "/orders" = ["orders"] := rfl
  have hend : ∀ c ∈ "/orders".toList, isEnd c = false := by simp [isEnd]
  rw [show "/orders/" ++ t = "/orders" ++ "/" ++ t from rfl, segments_slash t hend, hwords, segments_single ht]
  rfl

theorem pathNames_iff (ht : Path.IsSegment t) : PathNames kind t id ↔ ResourceId.read t = .ok id := by
  have hparse : (Pattern.parse "/orders/\x7bid\x7d").map (·.segments) = .ok [.literal "orders", .param "id"] := rfl
  obtain ⟨p, hp, hsegments⟩ := map_eq_ok_iff.mp hparse
  have hbind : p.bind? (Path.segments ("/orders/" ++ t)) = some (Table.ofList [("id", t)]) := by
    rw [Pattern.bind?, hsegments, Path.segments_orders ht]
    rfl
  constructor
  · rintro ⟨p', params, hp', hparams, hid⟩
    cases hp.symm.trans hp'
    cases hbind.symm.trans hparams
    exact Desk.pathId_single.mp hid
  · intro h
    exact ⟨p, _, hp, hbind, Desk.pathId_single.mpr h⟩

namespace Body

theorem edit_text_iff (h : ofBytes body = .ok (.object [("id", .string t), ("payload", .object [])])) :
    edit body = .ok (id, .ofMembers []) ↔ ResourceId.read t = .ok id := by
  have htext : EditText body (.string t) (.object []) :=
    editText_of_ofBytes h (Or.inl ⟨_, rfl, Json.onlyMember_iff.mpr rfl, Json.onlyMember_iff.mpr rfl⟩)
  rw [htext.edit_eq_ok_iff, names_iff]
  constructor
  · rintro ⟨⟨e, he, hids⟩, -⟩
    obtain rfl := Option.some.inj he
    exact IdEntry.ids_text_eq_singleton_iff.mp hids
  · exact fun hread => ⟨⟨.text t, rfl, IdEntry.ids_text_eq_singleton_iff.mpr hread⟩,
      Payload.ofJson?_eq_some_iff.mp rfl⟩

theorem remove_text_iff {v : Json} (h : ofBytes body = .ok v) (hv : Removal.ofJson? v = some (.one (.text t))) :
    remove body = .ok [id] ↔ ResourceId.read t = .ok id := by
  rw [remove_of_ofBytes h, hv, Removal.outcome, bind_eq_ok_iff, ← IdEntry.ids_text_eq_singleton_iff]
  constructor
  · rintro ⟨ids, hids, h⟩
    split at h <;> cases h
    exact hids
  · exact fun hids => ⟨[id], hids, rfl⟩

end Body

theorem id_channels :
    (∀ t, Path.IsSegment t → ∀ kind id edited alone inside,
      ofBytes edited = .ok (.object [("id", .string t), ("payload", .object [])]) →
      ofBytes alone = .ok (.string t) → ofBytes inside = .ok (.object [("id", .string t)]) →
        [PathNames kind t id, Body.edit edited = .ok (id, .ofMembers []), Body.remove alone = .ok [id],
          Body.remove inside = .ok [id]].TFAE) ∧
    ∀ kind id, PathNames kind id.text id ∧
      Body.edit (encode (Json.object [("id", .string id.text), ("payload", .object [])]).chars) =
        .ok (id, .ofMembers []) ∧
      Body.remove (encode (Json.string id.text).chars) = .ok [id] ∧
      Body.remove (encode (Json.object [("id", .string id.text)]).chars) = .ok [id] := by
  constructor
  · intro t ht kind id edited alone inside hedited halone hinside
    refine List.tfae_of_forall (ResourceId.read t = .ok id) _ ?_
    simp only [List.forall_mem_cons]
    exact ⟨pathNames_iff ht, Body.edit_text_iff hedited, Body.remove_text_iff halone rfl,
      Body.remove_text_iff hinside rfl, nofun⟩
  · intro kind id
    have hread := ResourceId.read_text id
    have hedited : ofBytes (encode (Json.object [("id", .string id.text), ("payload", .object [])]).chars) =
        .ok (.object [("id", .string id.text), ("payload", .object [])]) :=
      ofBytes_chars ⟨trivial, trivial, trivial⟩ (Nat.le_of_ble_eq_true rfl)
    have halone : ofBytes (encode (Json.string id.text).chars) = .ok (.string id.text) :=
      ofBytes_chars trivial (Nat.zero_le _)
    have hinside : ofBytes (encode (Json.object [("id", .string id.text)]).chars) =
        .ok (.object [("id", .string id.text)]) :=
      ofBytes_chars ⟨trivial, trivial⟩ (Nat.le_of_ble_eq_true rfl)
    exact ⟨(pathNames_iff id.isSegment_text).mpr hread, (Body.edit_text_iff hedited).mpr hread,
      (Body.remove_text_iff halone rfl).mpr hread, (Body.remove_text_iff hinside rfl).mpr hread⟩

theorem id_channels_padded : PathNames .orders "\u2003+07" 7 ∧
    Body.remove (encode (Json.string "\u2003+07").chars) = .ok [7] := by
  have ht : Path.IsSegment "\u2003+07" := ⟨by simp, by simp, by simp [Path.isEnd]⟩
  have hedited : (Json.object [("id", .string "\u2003+07"), ("payload", .object [])]).Integral :=
    ⟨trivial, trivial, trivial⟩
  have hsame := id_channels.1 _ ht .orders 7 _ _ _ (ofBytes_chars hedited (by decide))
    (ofBytes_chars trivial (by decide)) (ofBytes_chars ⟨trivial, trivial⟩ (by decide))
  have hpath : PathNames .orders "\u2003+07" 7 := (pathNames_iff ht).mpr rfl
  exact ⟨hpath, (hsame.out 0 2).mp hpath⟩

end GatedStore
