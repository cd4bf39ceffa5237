/-
The order in which profiles are written.

Reading the profiles of a document is described without any order: each member has to read as a
profile, and the map has those as its entries (`profilesOfJson?_eq_some_iff`).  A map is known by
its entries, so a permutation of the members reads as the same map, and the rest of the document
does not look at them.  Validation goes through the map by name, so the first entry with a fault
has the smallest name of all that have one.
-/
import Mathlib.Data.List.Forall2
import TableDdl.Proofs.Config
import TableDdl.Proofs.Trim

namespace TableDdl

/-! ## Members of a document -/

namespace Json

variable {before after : List (Option String × Json)} {name other : String} {value : Json}

theorem namedMembers?_cons (name : Option String) (value : Json)
    (rest : List (Option String × Json)) :
    namedMembers? ((name, value) :: rest) =
      name.bind fun name => (namedMembers? rest).map ((name, value) :: ·) := by
  simp only [namedMembers?, List.mapM_cons]
  cases name with
  | none => rfl
  | some name =>
      cases rest.mapM fun member : Option String × Json => member.1.map (·, member.2) <;> rfl

theorem discard_namedMembers? :
    discard (namedMembers? (before ++ (some name, value) :: after)) =
      discard (namedMembers? (before ++ after)) := by
  have hmap : ∀ (named : Option (List (String × Json))) (e : String × Json),
      discard (named.map (e :: ·)) = discard named := by
    intro named e
    cases named <;> rfl
  induction before with
  | nil => exact (congrArg discard (namedMembers?_cons (some name) value after)).trans (hmap _ _)
  | cons member rest ih =>
      obtain ⟨first, firstValue⟩ := member
      rw [List.cons_append, List.cons_append, namedMembers?_cons, namedMembers?_cons]
      cases first with
      | none => rfl
      | some first => rw [Option.bind_some, Option.bind_some, hmap, hmap, ih]

theorem member?_of_ne (h : name ≠ other) :
    member? (before ++ (some name, value) :: after) other = member? (before ++ after) other := by
  simp [member?, h]

theorem member?_self :
    member? (before ++ (some name, value) :: after) name =
      if some name ∈ (before ++ after).map Prod.fst then none else some (some value) := by
  have hothers : some name ∈ (before ++ after).map Prod.fst ↔
      before.filter (·.1 == some name) ≠ [] ∨ after.filter (·.1 == some name) ≠ [] := by
    simp [List.filter_eq_nil_iff]
  unfold member?
  rw [List.filter_append, List.filter_cons_of_pos (by simp)]
  simp only [hothers]
  cases before.filter (·.1 == some name) <;> cases after.filter (·.1 == some name) <;> simp

end Json

namespace Config

/-- The member is written under this name, and its value reads as this profile. -/
def Reads (member : Option String × Json) (entry : String × Profile) : Prop :=
  member.1 = some entry.1 ∧ Profile.ofJson? member.2 = some entry.2

theorem Reads.unique {member : Option String × Json} {entry entry' : String × Profile}
    (h : Reads member entry) (h' : Reads member entry') : entry = entry' :=
  Prod.ext (Option.some.inj (h.1.symm.trans h'.1)) (Option.some.inj (h.2.symm.trans h'.2))

variable {members : List (Option String × Json)} {entries : List (String × Profile)}

/-- What stands in the members, in their order. -/
def readMembers? (members : List (Option String × Json)) : Option (List (String × Profile)) :=
  (Json.namedMembers? members).bind fun named =>
    named.mapM fun e => (Profile.ofJson? e.2).map (e.1, ·)

theorem profilesOfJson?_object (members : List (Option String × Json)) :
    profilesOfJson? (.object members) = (readMembers? members).map NameMap.ofList := by
  unfold profilesOfJson? readMembers?
  show (Json.namedMembers? members).bind _ = _
  cases Json.namedMembers? members with
  | none => rfl
  | some named =>
      show Option.bind (named.mapM fun e => (Profile.ofJson? e.2).map (e.1, ·)) _ =
        Option.map NameMap.ofList (named.mapM fun e => (Profile.ofJson? e.2).map (e.1, ·))
      cases named.mapM fun e => (Profile.ofJson? e.2).map (e.1, ·) <;> rfl

theorem readMembers?_cons (name : Option String) (value : Json)
    (rest : List (Option String × Json)) :
    readMembers? ((name, value) :: rest) =
      name.bind fun name => (Profile.ofJson? value).bind fun profile =>
        (readMembers? rest).map ((name, profile) :: ·) := by
  unfold readMembers?
  rw [Json.namedMembers?_cons]
  cases name with
  | none => rfl
  | some name =>
      cases Json.namedMembers? rest with
      | none => cases Profile.ofJson? value <;> rfl
      | some named =>
          rw [Option.bind_some, Option.map_some, Option.bind_some, Option.bind_some, List.mapM_cons]
          cases Profile.ofJson? value with
          | none => rfl
          | some profile =>
              show Option.bind (named.mapM fun e => (Profile.ofJson? e.2).map (e.1, ·)) _ =
                Option.map _ (named.mapM fun e => (Profile.ofJson? e.2).map (e.1, ·))
              cases named.mapM fun e => (Profile.ofJson? e.2).map (e.1, ·) <;> rfl

theorem readMembers?_eq_some_iff :
    readMembers? members = some entries ↔ List.Forall₂ Reads members entries := by
  induction members generalizing entries with
  | nil => cases entries <;> simp [readMembers?, Json.namedMembers?]
  | cons member rest ih =>
      obtain ⟨name, value⟩ := member
      rw [readMembers?_cons]
      simp only [Option.bind_eq_some_iff, Option.map_eq_some_iff, ih]
      constructor
      · rintro ⟨name, rfl, profile, hvalue, entries, hrest, rfl⟩
        exact .cons ⟨rfl, hvalue⟩ hrest
      · intro h
        cases h with
        | @cons _ entry _ entries hfirst hrest =>
            exact ⟨entry.1, hfirst.1, entry.2, hfirst.2, entries, hrest, rfl⟩

theorem exists_forall₂_reads_iff :
    (∃ entries, List.Forall₂ Reads members entries) ↔
      ∀ member ∈ members, ∃ entry, Reads member entry := by
  induction members with
  | nil => simp
  | cons member rest ih =>
      rw [List.forall_mem_cons, ← ih]
      constructor
      · rintro ⟨entries, hall⟩
        obtain ⟨entry, entries, hfirst, hrest, -⟩ := List.forall₂_cons_left_iff.mp hall
        exact ⟨⟨entry, hfirst⟩, entries, hrest⟩
      · rintro ⟨⟨entry, hfirst⟩, entries, hrest⟩
        exact ⟨entry :: entries, .cons hfirst hrest⟩

theorem names_of_forall₂_reads (h : List.Forall₂ Reads members entries) :
    members.filterMap Prod.fst = entries.map Prod.fst := by
  induction h with
  | nil => rfl
  | cons hfirst _ ih => rw [List.filterMap_cons_some hfirst.1, List.map_cons, ih]

theorem mem_iff_of_forall₂_reads (h : List.Forall₂ Reads members entries)
    (entry : String × Profile) : entry ∈ entries ↔ ∃ member ∈ members, Reads member entry := by
  induction h with
  | nil => simp
  | @cons member first members entries hfirst _ ih =>
      have hhead : Reads member entry ↔ entry = first :=
        ⟨fun h => h.unique hfirst, fun h => h ▸ hfirst⟩
      simp [ih, hhead]

/-- Under names that differ, what is read shows nothing of the order of the members. -/
theorem profilesOfJson?_eq_some_iff (hdistinct : (members.filterMap Prod.fst).Nodup)
    {profiles : NameMap Profile} :
    profilesOfJson? (.object members) = some profiles ↔
      (∀ member ∈ members, ∃ entry, Reads member entry) ∧
        ∀ entry, entry ∈ profiles.entries ↔ ∃ member ∈ members, Reads member entry := by
  rw [profilesOfJson?_object]
  constructor
  · intro h
    obtain ⟨entries, hread, rfl⟩ := Option.map_eq_some_iff.mp h
    have hall := readMembers?_eq_some_iff.mp hread
    rw [names_of_forall₂_reads hall] at hdistinct
    refine ⟨exists_forall₂_reads_iff.mp ⟨entries, hall⟩, fun entry => ?_⟩
    rw [NameMap.mem_ofList hdistinct, mem_iff_of_forall₂_reads hall]
  · rintro ⟨hreads, hentries⟩
    obtain ⟨entries, hall⟩ := exists_forall₂_reads_iff.mpr hreads
    have hprofiles : NameMap.ofList entries = profiles := by
      rw [names_of_forall₂_reads hall] at hdistinct
      refine NameMap.eq_of_mem_iff fun entry => ?_
      rw [NameMap.mem_ofList hdistinct, mem_iff_of_forall₂_reads hall, hentries]
    rw [readMembers?_eq_some_iff.mpr hall, Option.map_some, hprofiles]

theorem profilesOfJson?_perm {members' : List (Option String × Json)} (h : members'.Perm members)
    (hdistinct : (members.filterMap Prod.fst).Nodup) :
    profilesOfJson? (.object members') = profilesOfJson? (.object members) := by
  have hdistinct' : (members'.filterMap Prod.fst).Nodup :=
    (h.filterMap Prod.fst).nodup_iff.mpr hdistinct
  ext profiles
  rw [profilesOfJson?_eq_some_iff hdistinct', profilesOfJson?_eq_some_iff hdistinct]
  simp only [h.mem_iff]

/-! ## The document around them -/

/-- What a document has around its profiles. -/
inductive Frame where
  | object (before after : List (Option String × Json))
  | array (default : Json) (rest : List Json)

/-- The document with these members as its profiles. -/
def Frame.fill : Frame → List (Option String × Json) → Json
  | object before after, members =>
      .object (before ++ (some "profiles", .object members) :: after)
  | array default rest, members => .array (default :: .object members :: rest)

/-- The name in the field, or the usual one when it is missing. -/
def defaultName? : Option Json → Option String
  | none => some "default"
  | some j => j.text?

theorem ofFields?_profiles (default : Option Json) (profiles : Json) :
    ofFields? default (some profiles) =
      (profilesOfJson? profiles).bind fun profiles =>
        (defaultName? default).map fun default => ⟨default, profiles⟩ := by
  unfold ofFields?
  show (profilesOfJson? profiles).bind _ = _
  cases profilesOfJson? profiles with
  | none => rfl
  | some profiles =>
      cases default with
      | none => rfl
      | some j =>
          show Option.bind j.text? _ = Option.map _ j.text?
          cases j.text? <;> rfl

/-- The name of the default profile, if all is well around the profiles. -/
def Frame.default? : Frame → Option String
  | object before after => do
      discard (Json.namedMembers? (before ++ after))
      let default ← Json.member? (before ++ after) "default"
      if some "profiles" ∈ (before ++ after).map Prod.fst then none else defaultName? default
  | array default rest => if rest.isEmpty then defaultName? (some default) else none

/-- Nothing else in a document looks at its profiles. -/
theorem Frame.ofJson?_fill (frame : Frame) (members : List (Option String × Json)) :
    ofJson? (frame.fill members) =
      (profilesOfJson? (.object members)).bind fun profiles =>
        frame.default?.map fun default => ⟨default, profiles⟩ := by
  cases frame with
  | object before after =>
      have hne : "profiles" ≠ "default" := by decide
      show Option.bind (discard (Json.namedMembers?
        (before ++ (some "profiles", .object members) :: after))) (fun _ =>
          Option.bind (Json.member? _ "default") fun default =>
            Option.bind (Json.member? _ "profiles") fun profiles =>
              ofFields? default profiles) = _
      rw [Json.discard_namedMembers?, Json.member?_of_ne hne, Json.member?_self]
      show _ = Option.bind _ fun profiles => Option.map _ (Option.bind
        (discard (Json.namedMembers? (before ++ after))) fun _ =>
          Option.bind (Json.member? (before ++ after) "default") fun default =>
            if some "profiles" ∈ (before ++ after).map Prod.fst then none else defaultName? default)
      cases discard (Json.namedMembers? (before ++ after)) with
      | none => cases profilesOfJson? (.object members) <;> rfl
      | some _ =>
          cases Json.member? (before ++ after) "default" with
          | none => cases profilesOfJson? (.object members) <;> rfl
          | some default =>
              split
              · -- Profiles written twice fail the document, whatever they are.
                cases profilesOfJson? (.object members) <;> simp_all
              · simp_all [ofFields?_profiles]
  | array default rest =>
      cases rest with
      | nil => exact ofFields?_profiles (some default) (.object members)
      | cons first rest => cases profilesOfJson? (.object members) <;> simp [fill, ofJson?, default?]

end Config

/-! ## What is reported -/

/-- What is reported of a profile under this name: a blank URL ahead of an unknown dialect. -/
inductive Profile.Reports (p : Profile) (name : String) : SetupError → Prop where
  | blankUrl (h : Text.trim p.url = "") : Reports p name (.unusable (.blankUrl name))
  | unknownDialect (hurl : Text.trim p.url ≠ "") (h : ∀ d, Dialect.resolve p.identifier ≠ .ok d) :
      Reports p name (.schema (.unsupportedDialect p.identifier))

theorem Profile.fault?_eq_some_iff {p : Profile} {name : String} {e : SetupError} :
    p.fault? name = some e ↔ p.Reports name e := by
  unfold fault? dialect
  split
  next hblank =>
    have hurl : Text.trim p.url = "" := (Text.trim_eq_empty_iff p.url).mpr hblank
    constructor
    · rintro ⟨⟩
      exact .blankUrl hurl
    · rintro (_ | ⟨hne, _⟩)
      · rfl
      · exact absurd hurl hne
  next hblank =>
    have hurl : Text.trim p.url ≠ "" := fun h => hblank ((Text.trim_eq_empty_iff p.url).mp h)
    cases hresolve : Dialect.resolve p.identifier with
    | ok d =>
        constructor
        · nofun
        · rintro (h | ⟨_, h⟩)
          · exact absurd h hurl
          · exact absurd hresolve (h d)
    | error fault =>
        have hfault : fault = .unsupportedDialect p.identifier := by
          unfold Dialect.resolve at hresolve
          split at hresolve
          · cases hresolve
          · exact (Except.error.inj hresolve).symm
        constructor
        · rintro ⟨⟩
          rw [hfault]
          exact .unknownDialect hurl (by simp [hresolve])
        · rintro (h | _)
          · exact absurd h hurl
          · rw [hfault]

namespace Config

/-- What is reported of a configuration: that it has no profiles, or what is wrong with the profile
of the smallest name of all that something is wrong with. -/
inductive Reports (c : Config) : SetupError → Prop where
  | noProfiles (h : c.profiles.entries = []) : Reports c (.unusable .noProfiles)
  | profile {name : String} {p : Profile} {e : SetupError} (hmem : (name, p) ∈ c.profiles.entries)
      (h : p.Reports name e)
      (hleast : ∀ other ∈ c.profiles.entries, (∃ e', other.2.Reports other.1 e') → name ≤ other.1) :
      Reports c e

variable {c : Config} {e : SetupError} {document : String}

theorem fault?_eq_some_iff : c.fault? = some e ↔ c.Reports e := by
  have hfaulty : ∀ entry : String × Profile,
      entry.2.fault? entry.1 ≠ none ↔ ∃ e, entry.2.Reports entry.1 e := by
    intro entry
    simp only [Option.ne_none_iff_exists', Profile.fault?_eq_some_iff]
  unfold fault?
  split
  next hempty =>
    have hnone : c.profiles.entries = [] := List.isEmpty_iff.mp hempty
    constructor
    · rintro ⟨⟩
      exact .noProfiles hnone
    · rintro (_ | ⟨hmem, _⟩)
      · rfl
      · rw [hnone] at hmem
        cases hmem
  next hempty =>
    rw [findSome?_eq_some_iff_first]
    simp only [NameMap.first_iff_least, hfaulty]
    constructor
    · rintro ⟨⟨name, p⟩, ⟨hmem, -, hleast⟩, h⟩
      exact .profile hmem (Profile.fault?_eq_some_iff.mp h) hleast
    · rintro (hnone | ⟨hmem, h, hleast⟩)
      · exact absurd (List.isEmpty_iff.mpr hnone) hempty
      · exact ⟨_, ⟨hmem, ⟨e, h⟩, hleast⟩, Profile.fault?_eq_some_iff.mpr h⟩

theorem parse_eq_error_iff (h : (Json.parse? document).bind ofJson? = some c) :
    Config.parse document = .error e ↔ c.Reports e := by
  rw [parse_of_read h, validate, ← fault?_eq_some_iff]
  cases c.fault? with
  | none => simp [Except.map]
  | some fault => simp [Except.map]

/-- The order of the profiles in a document makes no difference.  Under names that differ, the
configuration has the profiles that are written, in whatever order they are; what is reported of a
document that reads as a configuration depends on the names. -/
theorem parse_reordered (document : String) :
    (∀ (frame : Frame) (members : List (Option String × Json)),
      Json.parse? document = some (frame.fill members) → (members.filterMap Prod.fst).Nodup →
        (∀ c, ofJson? (frame.fill members) = some c →
          ∀ entry, entry ∈ c.profiles.entries ↔ ∃ member ∈ members, Reads member entry) ∧
        ∀ members' document', members'.Perm members →
          Json.parse? document' = some (frame.fill members') →
            Config.parse document' = Config.parse document) ∧
    ∀ c, (Json.parse? document).bind ofJson? = some c →
      (∀ e, Config.parse document = .error e ↔ c.Reports e) ∧
        (c.profiles.entries = [] → ∃ fault : ConfigFault,
          Config.parse document = .error (.unusable fault) ∧
            fault.message = "no profiles defined") := by
  refine ⟨fun frame members hread hdistinct => ⟨fun c hc => ?_, ?_⟩, fun c hread => ⟨?_, ?_⟩⟩
  · rw [frame.ofJson?_fill] at hc
    obtain ⟨profiles, hprofiles, hc⟩ := Option.bind_eq_some_iff.mp hc
    obtain ⟨default, -, rfl⟩ := Option.map_eq_some_iff.mp hc
    exact ((profilesOfJson?_eq_some_iff hdistinct).mp hprofiles).2
  · intro members' document' hperm hread'
    have hsame : ofJson? (frame.fill members') = ofJson? (frame.fill members) := by
      rw [frame.ofJson?_fill, frame.ofJson?_fill, profilesOfJson?_perm hperm hdistinct]
    simp only [Config.parse, hread, hread', Option.bind_some, hsame]
  · exact fun e => parse_eq_error_iff hread
  · exact fun hnone => ⟨.noProfiles, (parse_eq_error_iff hread).mpr (.noProfiles hnone), rfl⟩

/-- The shop has an unknown dialect too, and its name stands first in the second document. -/
theorem parse_reordered_archive :
    let c : Config :=
      { default := "main"
        profiles := NameMap.ofList
          [("archive", { identifier := "oracle", url := " " }),
           ("main", { identifier := "sqlite", url := ":memory:" }),
           ("shop", { identifier := "oracle", url := "db.local" })] }
    let document' :=
      "\x7b\"default\":\"main\",\"profiles\":\x7b\"shop\":\x7b\"dialect\":\"oracle\"," ++
        "\"url\":\"db.local\"\x7d,\"main\":\x7b\"dialect\":\"sqlite\"," ++
        "\"url\":\":memory:\"\x7d,\"archive\":\x7b\"dialect\":\"oracle\"," ++
        "\"url\":\" \"\x7d\x7d\x7d"
    Config.parse document' = Config.parse c.serialize ∧
      Config.parse c.serialize = .error (.unusable (.blankUrl "archive")) := by
  intro c document'
  let frame : Frame := .object [(some "default", .string c.default)] []
  let members : List (Option String × Json) :=
    c.profiles.entries.map fun e => (some e.1, e.2.toJson)
  have hread : Json.parse? c.serialize = some (frame.fill members) := Json.parse?_write c.toJson
  have hread' : Json.parse? document' = some (frame.fill members.reverse) := by
    have hdocument : document' = (frame.fill members.reverse).write := by decide +kernel
    rw [hdocument, Json.parse?_write]
  have hdistinct : (members.filterMap Prod.fst).Nodup := by decide +kernel
  obtain ⟨hframe, hreported⟩ := parse_reordered c.serialize
  obtain ⟨-, hreordered⟩ := hframe frame members hread hdistinct
  have hreports : c.Reports (.unusable (.blankUrl "archive")) := by
    have hleast : ∀ other ∈ c.profiles.entries, "archive" ≤ other.1 := by decide +kernel
    refine .profile (p := { identifier := "oracle", url := " " }) ?_ (.blankUrl ?_) ?_
    · decide +kernel
    · decide +kernel
    · exact fun other hother _ => hleast other hother
  exact ⟨hreordered members.reverse document' members.reverse_perm hread',
    ((hreported c c.read_serialize).1 _).mpr hreports⟩

end Config
end TableDdl
