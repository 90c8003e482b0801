import GatedStore.Proofs.BodyIds
import GatedStore.Service.Desk

namespace GatedStore

open Resource (schema)

structure Json.Depicts (v : Json) (r : Resource) : Prop where
  names_eq : ∃ ms, v = .object ms ∧ ms.map Prod.fst = ["id", "kind", "payload"]
  id_eq : (v.member? "id").bind natural? = some r.id
  kind_eq : v.member? "kind" = some (.string r.kind.segment)
  payload_eq : v.member? "payload" = some (.object r.payload.members.pairs)

def Json.DepictsAll (v : Json) (rs : List Resource) : Prop :=
  ∃ vs, v = .array vs ∧ List.Forall₂ Depicts vs rs

theorem Resource.depicts_toJson (r : Resource) : r.toJson.Depicts r where
  names_eq := ⟨_, rfl, rfl⟩
  id_eq := Json.natural?_eq_some_iff.mpr rfl
  kind_eq := rfl
  payload_eq := rfl

theorem Resource.depictsAll_toJson (rs : List Resource) : (Json.array (rs.map toJson)).DepictsAll rs :=
  ⟨_, rfl, List.forall₂_map_left_iff.mpr (List.forall₂_same.mpr fun r _ => r.depicts_toJson)⟩

namespace Response

def Shows (response : Response) (r : Resource) : Prop :=
  response.status = 200 ∧ response.body.Depicts r

def ShowsAll (response : Response) (rs : List Resource) : Prop :=
  response.status = 200 ∧ response.body.DepictsAll rs

variable {response : Response} {r : Resource}

theorem shows_ok (r : Resource) : (ok r.toJson).Shows r :=
  ⟨rfl, r.depicts_toJson⟩

theorem showsAll_ok (rs : List Resource) : (ok (.array (rs.map Resource.toJson))).ShowsAll rs :=
  ⟨rfl, Resource.depictsAll_toJson rs⟩

end Response

namespace Desk

/-- The value passes the reply on: a resource as its members, a list in its order, the ids of a removal under one
name. -/
def Delivers : (r : Request schema) → r.Reply → Json → Prop
  | .list, rs, v => v.DepictsAll rs
  | .get _, r, v => v.Depicts r
  | .create _, r, v => v.Depicts r
  | .update _ _, r, v => v.Depicts r
  | .remove _, ids, v =>
    ∃ ns, v = .object [("removed", .array ns)] ∧ List.Forall₂ (fun n id => n.natural? = some id) ns ids

theorem delivers_replyJson (r : Request schema) (reply : r.Reply) : Delivers r reply (replyJson r reply) := by
  cases r with
  | list => exact Resource.depictsAll_toJson reply
  | get _ | create _ | update _ _ => exact Resource.depicts_toJson reply
  | remove _ =>
    refine ⟨_, rfl, List.forall₂_map_left_iff.mpr (List.forall₂_same.mpr fun id _ => ?_)⟩
    exact Json.natural?_eq_some_iff.mpr rfl

end Desk

end GatedStore
