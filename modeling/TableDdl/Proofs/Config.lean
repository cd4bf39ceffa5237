/-
A configuration that is written down and read again.

The object of a profile has each field under its own name and leaves out what is not set, so
reading it gives the profile back.  Profiles are written in the order of their names, which is the
order the map keeps them in, so putting them in one after the other makes the same map.  Together
with the round trip of documents this gives the configuration itself, and then its validation
decides (`parse_serialize`).
-/
import TableDdl.Config
import TableDdl.Proofs.Json
import TableDdl.Proofs.NameMap

namespace TableDdl

theorem Json.namedMembers?_named {α : Type} (value : α → Json) (entries : List (String × α)) :
    namedMembers? (entries.map fun e => (some e.1, value e.2)) =
      some (entries.map fun e => (e.1, value e.2)) := by
  rw [namedMembers?, List.mapM_map]
  exact List.mapM_pure

/-- What is not set is left out, what is set is written, be it empty or not. -/
theorem Profile.ofJson?_toJson (p : Profile) : Profile.ofJson? p.toJson = some p := by
  obtain ⟨identifier, url, charset, collation, database, tablePrefix⟩ := p
  cases charset <;> cases collation <;> cases database <;> cases tablePrefix <;> rfl

namespace Config

theorem profilesOfJson?_profiles (profiles : NameMap Profile) :
    profilesOfJson? (.object (profiles.entries.map fun e => (some e.1, e.2.toJson))) =
      some profiles := by
  have hentry : ∀ e : String × Profile,
      (Profile.ofJson? e.2.toJson).map (e.1, ·) = some e := by
    intro e
    rw [Profile.ofJson?_toJson]
    rfl
  have hread : (profiles.entries.map fun e => (e.1, e.2.toJson)).mapM
      (fun e => (Profile.ofJson? e.2).map (e.1, ·)) = some profiles.entries := by
    rw [List.mapM_map]
    show profiles.entries.mapM (fun e => (Profile.ofJson? e.2.toJson).map (e.1, ·)) = _
    simp only [hentry]
    exact List.mapM_pure.trans (congrArg some (List.map_id _))
  unfold profilesOfJson?
  show (Json.namedMembers? _).bind _ = _
  rw [Json.namedMembers?_named Profile.toJson]
  show Option.bind
    (List.mapM (fun e : String × Json => (Profile.ofJson? e.2).map (e.1, ·)) _) _ = _
  rw [hread]
  exact congrArg some (NameMap.ofList_entries profiles)

theorem ofJson?_toJson (c : Config) : ofJson? c.toJson = some c := by
  show ofFields? (some (.string c.default))
    (some (.object (c.profiles.entries.map fun e => (some e.1, e.2.toJson)))) = _
  unfold ofFields?
  rw [Option.bind_some, profilesOfJson?_profiles]
  rfl

theorem read_serialize (c : Config) : (Json.parse? c.serialize).bind ofJson? = some c := by
  rw [serialize, Json.parse?_write]
  exact c.ofJson?_toJson

theorem parse_of_read {document : String} {c : Config}
    (h : (Json.parse? document).bind ofJson? = some c) :
    Config.parse document = c.validate.map fun _ => c := by
  unfold Config.parse
  rw [h]

theorem parse_of_sound {document : String} {c : Config}
    (h : (Json.parse? document).bind ofJson? = some c) (hsound : c.fault? = none) :
    Config.parse document = .ok c := by
  rw [parse_of_read h, validate, hsound]
  rfl

/-- A configuration survives being written and read, and then it is validated: it is the answer
when it is valid, and otherwise what is wrong with it is. -/
theorem parse_serialize (c : Config) :
    (Json.parse? c.serialize).bind ofJson? = some c ∧
      Config.parse c.serialize =
        match c.validate with
        | .ok () => .ok c
        | .error e => .error e := by
  refine ⟨c.read_serialize, ?_⟩
  rw [parse_of_read c.read_serialize]
  cases c.validate <;> rfl

end Config
end TableDdl
