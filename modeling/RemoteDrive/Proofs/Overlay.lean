import Mathlib
import RemoteDrive.Proofs.Fields

/-!
# Configurations in part

A configuration document says what differs from the defaults. What it leaves out can be a place, a
section with all its places, or everything, and the default that steps in belongs to what is missing
at that level: a section without a place has the default of the place, and a document without a
section the defaults of the section. These agree, so that a document which mentions some places
gives the standard configuration with just these replaced (`Config.overlay`), whatever the order of
its fields and whatever else it mentions. A builder that is given settings for the same places, in
any order, makes the same configuration (`Config.build_eq_overlay`).

Documents here are the ones whose records list their fields by name (`NamedDocument`). For every
configuration and whatever places of it there is a configuration file that mentions just these
(`Config.mentions_file`).
-/

set_option autoImplicit false

namespace RemoteDrive

/-! ## Places -/

namespace Config

/-- Where a configuration has a value. -/
inductive Place where
  | apiKey
  | apiSecret
  | rootId
  | baseUrl
  | userAgent
  | requestTimeout
  | uploadTimeout
deriving DecidableEq

/-- The parts of a configuration that are records of their own. -/
inductive Section where
  | credentials
  | http
deriving DecidableEq

/-- The name of the field that holds a section. -/
def Section.key : Section → String
  | .credentials => "credentials"
  | .http => "http"

namespace Place

/-- The section of a place; the root belongs to none. -/
def section? : Place → Option Section
  | .apiKey => some .credentials
  | .apiSecret => some .credentials
  | .rootId => none
  | .baseUrl => some .http
  | .userAgent => some .http
  | .requestTimeout => some .http
  | .uploadTimeout => some .http

/-- The name of the field that holds the value. -/
def key : Place → String
  | .apiKey => "api_key"
  | .apiSecret => "api_secret"
  | .rootId => "root_id"
  | .baseUrl => "base_url"
  | .userAgent => "user_agent"
  | .requestTimeout => "request_timeout_secs"
  | .uploadTimeout => "upload_timeout_secs"

end Place

/-- The place that a setting replaces. -/
def Setting.place : Setting → Place
  | .apiKey _ => .apiKey
  | .apiSecret _ => .apiSecret
  | .rootId _ => .rootId
  | .baseUrl _ => .baseUrl
  | .userAgent _ => .userAgent
  | .requestTimeout _ => .requestTimeout
  | .uploadTimeout _ => .uploadTimeout

/-- What `c` has at a place, as the setting that puts it there. -/
def setting (c : Config) : Place → Setting
  | .apiKey => .apiKey c.credentials.apiKey
  | .apiSecret => .apiSecret c.credentials.apiSecret
  | .rootId => .rootId c.rootId
  | .baseUrl => .baseUrl c.http.baseUrl
  | .userAgent => .userAgent c.http.userAgent
  | .requestTimeout => .requestTimeout c.http.requestTimeout
  | .uploadTimeout => .uploadTimeout c.http.uploadTimeout

variable {c c' : Config} {p : Place}

@[simp]
theorem place_setting (c : Config) (p : Place) : (c.setting p).place = p := by
  cases p <;> rfl

theorem setting_set (c : Config) (s : Setting) (p : Place) :
    (c.set s).setting p = if s.place = p then s else c.setting p := by
  cases s <;> cases p <;> rfl

/-- A configuration is what it has at its places. -/
theorem ext_setting (h : ∀ p, c.setting p = c'.setting p) : c = c' := by
  obtain ⟨⟨key, secret⟩, root, ⟨url, agent, request, upload⟩⟩ := c
  obtain ⟨⟨key', secret'⟩, root', ⟨url', agent', request', upload'⟩⟩ := c'
  obtain rfl := Setting.apiKey.inj (h .apiKey)
  obtain rfl := Setting.apiSecret.inj (h .apiSecret)
  obtain rfl := Setting.rootId.inj (h .rootId)
  obtain rfl := Setting.baseUrl.inj (h .baseUrl)
  obtain rfl := Setting.userAgent.inj (h .userAgent)
  obtain rfl := Setting.requestTimeout.inj (h .requestTimeout)
  obtain rfl := Setting.uploadTimeout.inj (h .uploadTimeout)
  rfl

/-- The standard configuration with what `c` has at the places `S`. -/
def overlay (S : List Place) (c : Config) : Config where
  credentials :=
    { apiKey := if .apiKey ∈ S then c.credentials.apiKey else Credentials.standard.apiKey
      apiSecret :=
        if .apiSecret ∈ S then c.credentials.apiSecret else Credentials.standard.apiSecret }
  rootId := if .rootId ∈ S then c.rootId else standard.rootId
  http :=
    { baseUrl := if .baseUrl ∈ S then c.http.baseUrl else HttpSettings.standard.baseUrl
      userAgent := if .userAgent ∈ S then c.http.userAgent else HttpSettings.standard.userAgent
      requestTimeout :=
        if .requestTimeout ∈ S then c.http.requestTimeout else HttpSettings.standard.requestTimeout
      uploadTimeout :=
        if .uploadTimeout ∈ S then c.http.uploadTimeout else HttpSettings.standard.uploadTimeout }

variable {S : List Place}

theorem setting_overlay (S : List Place) (c : Config) (p : Place) :
    (overlay S c).setting p = if p ∈ S then c.setting p else standard.setting p := by
  cases p <;> simp only [setting, overlay] <;> split <;> rfl

/-! ## Builders -/

/-- After settings that agree with `c`, a configuration has what `c` has at their places. -/
theorem setting_foldl {settings : List Setting} (h : ∀ s ∈ settings, s = c.setting s.place)
    (base : Config) : (settings.foldl set base).setting p =
      if c.setting p ∈ settings then c.setting p else base.setting p := by
  induction settings generalizing base with
  | nil => rfl
  | cons s settings ih =>
    have hs := h s List.mem_cons_self
    have hplace : s.place = p ↔ c.setting p = s := by
      constructor
      · rintro rfl
        exact hs.symm
      · rintro rfl
        exact place_setting c p
    rw [List.foldl_cons, ih (fun s hs => h s (List.mem_cons_of_mem _ hs)), setting_set]
    simp only [List.mem_cons, hplace]
    -- the settings behind `s` count before it, and where they have none for `p` it is `s` that does
    by_cases hmem : c.setting p ∈ settings
    · rw [if_pos hmem, if_pos (Or.inr hmem)]
    · rw [if_neg hmem]
      by_cases heq : c.setting p = s
      · rw [if_pos heq, if_pos (Or.inl heq), heq]
      · rw [if_neg heq, if_neg (not_or_intro heq hmem)]

/-- **The order of the settings of a builder does not matter**, if no two differ about a place. -/
theorem build_eq_overlay {settings : List Setting}
    (h : ∀ s, s ∈ settings ↔ ∃ p ∈ S, c.setting p = s) : build settings = overlay S c := by
  have hagree : ∀ s ∈ settings, s = c.setting s.place := by
    intro s hs
    obtain ⟨p, -, rfl⟩ := (h s).mp hs
    rw [place_setting]
  have hmem : ∀ p, c.setting p ∈ settings ↔ p ∈ S := by
    intro p
    refine (h _).trans ⟨?_, fun hp => ⟨p, hp, rfl⟩⟩
    rintro ⟨q, hq, heq⟩
    have hqp := congrArg Setting.place heq
    rw [place_setting, place_setting] at hqp
    exact hqp ▸ hq
  refine ext_setting fun p => ?_
  rw [build, setting_foldl hagree, setting_overlay]
  simp only [hmem]

/-! ## Documents -/

variable {δ : Type} [Document δ]

/-- A node writes the value of a setting. -/
def Setting.WrittenBy (d : δ) : Setting → Prop
  | .apiKey v => Document.text? d = some v
  | .apiSecret v => Document.text? d = some v
  | .rootId v => Document.text? d = some v
  | .baseUrl v => Document.text? d = some v
  | .userAgent v => Document.text? d = some v
  | .requestTimeout n => Document.word? d = some n
  | .uploadTimeout n => Document.word? d = some n

variable {fields : List (String × δ)}

/-- Among the fields of a section, or of no section, are those that write what `c` has at places of
`S`, each of them once, and none for its other places. Other fields may be there as well. -/
def Lists (S : List Place) (c : Config) (s : Option Section) (fields : List (String × δ)) : Prop :=
  ∀ p : Place, p.section? = s →
    if p ∈ S then ∃ d, fields.filter (·.1 == p.key) = [(p.key, d)] ∧ (c.setting p).WrittenBy d
    else fields.filter (·.1 == p.key) = []

/-- The slot of a place gives what `c` has there, or else the default. -/
theorem Lists.exists_named {s : Option Section} (h : Lists S c s fields) {α : Type}
    (read : δ → Option α) (default a : α) (p : Place) (hp : p.section? = s)
    (hread : ∀ d, (c.setting p).WrittenBy d → read d = some a) :
    ∃ slot, Slot.named? fields p.key = some slot ∧
      slot.orElse default read = some (if p ∈ S then a else default) := by
  have hlisted := h p hp
  refine Slot.exists_named read default ?_
  split at hlisted <;> rename_i hmem
  · obtain ⟨d, hone, hwritten⟩ := hlisted
    exact .inr ⟨d, hone, by rw [if_pos hmem, hread d hwritten]⟩
  · exact .inl ⟨hlisted, by rw [if_neg hmem]⟩

variable [NamedDocument δ] {d : δ}

open NamedDocument (fields?)

theorem Lists.read_credentials (hfields : fields? d = some fields)
    (h : Lists S c (some .credentials) fields) :
    Credentials.read? d = some (overlay S c).credentials := by
  obtain ⟨key, hkey, hreadKey⟩ := h.exists_named Document.text? Credentials.standard.apiKey
    c.credentials.apiKey .apiKey rfl (fun _ h => h)
  obtain ⟨secret, hsecret, hreadSecret⟩ := h.exists_named Document.text?
    Credentials.standard.apiSecret c.credentials.apiSecret .apiSecret rfl (fun _ h => h)
  have hslots : Document.slots? ["api_key", "api_secret"] d = some [key, secret] :=
    NamedDocument.slots?_of_fields? hfields
      (Slot.ofNamed_cons hkey (Slot.ofNamed_cons hsecret rfl))
  rw [Credentials.read?, hslots]
  simp only [hreadKey, hreadSecret, Option.bind_eq_bind, Option.bind_some, Option.pure_def]
  rfl

theorem Lists.read_http (hfields : fields? d = some fields)
    (h : Lists S c (some .http) fields) : HttpSettings.read? d = some (overlay S c).http := by
  obtain ⟨url, hurl, hreadUrl⟩ := h.exists_named Document.text? HttpSettings.standard.baseUrl
    c.http.baseUrl .baseUrl rfl (fun _ h => h)
  obtain ⟨agent, hagent, hreadAgent⟩ := h.exists_named Document.text?
    HttpSettings.standard.userAgent c.http.userAgent .userAgent rfl (fun _ h => h)
  obtain ⟨request, hrequest, hreadRequest⟩ := h.exists_named Document.word?
    HttpSettings.standard.requestTimeout c.http.requestTimeout .requestTimeout rfl (fun _ h => h)
  obtain ⟨upload, hupload, hreadUpload⟩ := h.exists_named Document.word?
    HttpSettings.standard.uploadTimeout c.http.uploadTimeout .uploadTimeout rfl (fun _ h => h)
  have hslots : Document.slots? ["base_url", "user_agent", "request_timeout_secs",
      "upload_timeout_secs"] d = some [url, agent, request, upload] :=
    NamedDocument.slots?_of_fields? hfields (Slot.ofNamed_cons hurl (Slot.ofNamed_cons hagent
      (Slot.ofNamed_cons hrequest (Slot.ofNamed_cons hupload rfl))))
  rw [HttpSettings.read?, hslots]
  simp only [hreadUrl, hreadAgent, hreadRequest, hreadUpload, Option.bind_eq_bind,
    Option.bind_some, Option.pure_def]
  rfl

theorem overlay_credentials_of_absent (h : ∀ p ∈ S, p.section? ≠ some .credentials) :
    (overlay S c).credentials = .standard := by
  have habsent : ∀ p : Place, p.section? = some .credentials → p ∉ S := fun p hp hmem => h p hmem hp
  simp only [overlay, habsent .apiKey rfl, habsent .apiSecret rfl, if_false]

theorem overlay_http_of_absent (h : ∀ p ∈ S, p.section? ≠ some .http) :
    (overlay S c).http = .standard := by
  have habsent : ∀ p : Place, p.section? = some .http → p ∉ S := fun p hp hmem => h p hmem hp
  simp only [overlay, habsent .baseUrl rfl, habsent .userAgent rfl, habsent .requestTimeout rfl,
    habsent .uploadTimeout rfl, if_false]

/-- The document writes what `c` has at the places of `S`, and mentions no other place. A section
that has none of these places may be there or not. -/
def Mentions (S : List Place) (c : Config) (d : δ) : Prop :=
  ∃ fields, fields? d = some fields ∧ Lists S c none fields ∧
    ∀ s : Section,
      (fields.filter (·.1 == s.key) = [] ∧ ∀ p ∈ S, p.section? ≠ some s) ∨
      ∃ d' fields', fields.filter (·.1 == s.key) = [(s.key, d')] ∧ fields? d' = some fields' ∧
        Lists S c (some s) fields'

theorem read?_of_mentions (h : Mentions S c d) : read? d = some (overlay S c) := by
  obtain ⟨fields, hfields, hroot, hsections⟩ := h
  obtain ⟨root, hnamedRoot, hreadRoot⟩ := hroot.exists_named Document.text? standard.rootId
    c.rootId .rootId rfl (fun _ h => h)
  obtain ⟨credentials, hnamedCredentials, hreadCredentials⟩ :=
    Slot.exists_named Credentials.read? .standard ((hsections .credentials).imp
      (fun ⟨hnone, habsent⟩ => ⟨hnone, (overlay_credentials_of_absent habsent).symm⟩)
      (fun ⟨d', _, hone, hfields', hlists⟩ => ⟨d', hone, hlists.read_credentials hfields'⟩))
  obtain ⟨http, hnamedHttp, hreadHttp⟩ :=
    Slot.exists_named HttpSettings.read? .standard ((hsections .http).imp
      (fun ⟨hnone, habsent⟩ => ⟨hnone, (overlay_http_of_absent habsent).symm⟩)
      (fun ⟨d', _, hone, hfields', hlists⟩ => ⟨d', hone, hlists.read_http hfields'⟩))
  have hslots : Document.slots? ["credentials", "root_id", "http"] d =
      some [credentials, root, http] :=
    NamedDocument.slots?_of_fields? hfields (Slot.ofNamed_cons hnamedCredentials
      (Slot.ofNamed_cons hnamedRoot (Slot.ofNamed_cons hnamedHttp rfl)))
  rw [read?, hslots]
  simp only [hreadCredentials, hreadRoot, hreadHttp, Option.bind_eq_bind, Option.bind_some,
    Option.pure_def]
  rfl

/-- **A configuration in part** is the standard one with the places that it mentions replaced. -/
theorem read?_partial (h : Mentions S c d) :
    read? d = some (overlay S c) ∧
      (∀ p, (overlay S c).setting p = if p ∈ S then c.setting p else standard.setting p) ∧
      ∀ settings : List Setting, (∀ s, s ∈ settings ↔ ∃ p ∈ S, c.setting p = s) →
        build settings = overlay S c :=
  ⟨read?_of_mentions h, setting_overlay S c, fun _ => build_eq_overlay⟩

/-- A file that mentions two places: one section is empty, the other has an unknown field. -/
theorem read?_partial_two :
    let c : Config := ⟨⟨"key", "secret"⟩, "7", ⟨"http://127.0.0.1", "test", 45, 90⟩⟩
    let word : String → Yaml.Node := .scalar .plain none
    let file : Yaml.Value :=
      ⟨.mapping
        [(word "http", .mapping
          [(word "colour", word "blue"), (word "request_timeout_secs", word "45")]),
          (word "root_id", .scalar .doubleQuoted none "7"), (word "credentials", .mapping [])], #[]⟩
    Yaml.Value.parse? ("http:\n  colour: blue\n  request_timeout_secs: 45\n" ++
        "root_id: \"7\"\ncredentials: \x7b\x7d\n").toList = some file ∧
      Mentions [.rootId, .requestTimeout] c file ∧
      read? file = some ⟨.standard, "7", { HttpSettings.standard with requestTimeout := 45 }⟩ ∧
      build [.requestTimeout 45, .rootId "7"] =
        ⟨.standard, "7", { HttpSettings.standard with requestTimeout := 45 }⟩ := by
  intro c word file
  have hmentions : Mentions [.rootId, .requestTimeout] c file := by
    refine ⟨_, rfl, fun p hp => ?_, fun s => ?_⟩
    · cases p with
      | rootId =>
        exact ⟨⟨.scalar .doubleQuoted none "7", #[]⟩, by simp [Place.key, file, word], rfl⟩
      | apiKey | apiSecret | baseUrl | userAgent | requestTimeout | uploadTimeout => cases hp
    · cases s with
      | credentials =>
        refine .inr ⟨⟨.mapping [], #[]⟩, [], by simp [Section.key, file, word], rfl, fun p hp => ?_⟩
        cases p with
        | apiKey | apiSecret => rfl
        | rootId | baseUrl | userAgent | requestTimeout | uploadTimeout => cases hp
      | http =>
        refine .inr ⟨⟨.mapping [(word "colour", word "blue"),
          (word "request_timeout_secs", word "45")], #[]⟩, _, by simp [Section.key, file], rfl,
          fun p hp => ?_⟩
        cases p with
        | requestTimeout => exact ⟨⟨word "45", #[]⟩, by simp [Place.key, word], by rfl⟩
        | baseUrl | userAgent | uploadTimeout => rfl
        | apiKey | apiSecret | rootId => cases hp
  have hpartial := read?_partial hmentions
  exact ⟨by cbv, hmentions, hpartial.1, hpartial.2.2 _ (by simp [c, setting, eq_comm, or_comm])⟩

/-! ## Every part can be written -/

/-- The text of a setting's value. -/
def Setting.word : Setting → String
  | .apiKey v => v
  | .apiSecret v => v
  | .rootId v => v
  | .baseUrl v => v
  | .userAgent v => v
  | .requestTimeout n => Decimal.nat n.toNat
  | .uploadTimeout n => Decimal.nat n.toNat

theorem Setting.writtenBy_word (s : Setting) (named : Array (ℕ × Yaml.Node)) :
    s.WrittenBy (⟨.scalar .plain none s.word, named⟩ : Yaml.Value) := by
  cases s with
  | requestTimeout n | uploadTimeout n => exact Yaml.Node.word?_nat n
  | apiKey | apiSecret | rootId | baseUrl | userAgent => rfl

/-- All places. -/
def places : List Place :=
  [.apiKey, .apiSecret, .rootId, .baseUrl, .userAgent, .requestTimeout, .uploadTimeout]

theorem count_places (p : Place) : places.count p = 1 := by
  cases p <;> rfl

theorem Place.key_inj {p q : Place} (h : p.key = q.key) : p = q := by
  revert h
  cases p <;> cases q <;> simp [key]

/-- Fields called after places are told apart by their names. -/
theorem filter_key {δ : Type} (ps : List Place) (node : Place → δ) (p : Place) :
    (ps.map fun q => (q.key, node q)).filter (·.1 == p.key) =
      List.replicate (ps.count p) (p.key, node p) := by
  have hkey : (fun q : Place => q.key == p.key) = (· == p) := by
    funext q
    rw [Bool.eq_iff_iff, beq_iff_eq, beq_iff_eq]
    exact ⟨Place.key_inj, congrArg Place.key⟩
  rw [List.filter_map, Function.comp_def, hkey, List.filter_beq, List.map_replicate]

/-- A place outside of the sections is not called like one of them. -/
theorem Place.key_ne {p : Place} (h : p.section? = none) (s : Section) : p.key ≠ s.key := by
  cases p <;> cases h
  cases s <;> decide

section

variable (S : List Place) (c : Config) (s : Option Section)

/-- What `c` has at the places of `S` in one section, as the fields of a configuration file. -/
def fieldsIn : List (String × Yaml.Node) :=
  (places.filter fun p => p ∈ S ∧ p.section? = s).map fun p =>
    (p.key, .scalar .plain none (c.setting p).word)

/-- The sections, each with what `c` has at the places of `S` in it. -/
def sections : List (String × Yaml.Node) :=
  [Section.credentials, .http].map fun s => (s.key, .ofFields (fieldsIn S c (some s)))

/-- The configuration file that says what `c` has at the places of `S`. -/
def file : Yaml.Value := ⟨.ofFields (fieldsIn S c none ++ sections S c), #[]⟩

theorem lists_fieldsIn : Lists S c s (Yaml.Value.among #[] (fieldsIn S c s)) := by
  rintro p rfl
  have hcount : (places.filter fun q => q ∈ S ∧ q.section? = p.section?).count p =
      if p ∈ S then 1 else 0 := by
    split
    · rename_i hmem
      rw [List.count_filter (by simp [hmem]), count_places]
    · rename_i hmem
      exact List.count_eq_zero.mpr (by simp [hmem])
  rw [Yaml.Value.among, fieldsIn, List.map_map, Function.comp_def, filter_key, hcount]
  split
  · exact ⟨_, rfl, Setting.writtenBy_word _ _⟩
  · rfl

/-- For every configuration and all of its places there is a document that mentions them. -/
theorem mentions_file : Mentions S c (file S c) := by
  refine ⟨_, Yaml.Value.fields?_ofFields _ _, fun p hp => ?_, fun s => ?_⟩
  · have hsections : (Yaml.Value.among #[] (sections S c)).filter (·.1 == p.key) = [] :=
      List.filter_eq_nil_iff.mpr
        (by simp [Yaml.Value.among, sections, (Place.key_ne hp _).symm])
    rw [Yaml.Value.among_append, List.filter_append, hsections, List.append_nil]
    exact lists_fieldsIn S c none p hp
  · have hroot : (Yaml.Value.among #[] (fieldsIn S c none)).filter (·.1 == s.key) = [] := by
      refine List.filter_eq_nil_iff.mpr fun field hfield => ?_
      obtain ⟨_, hentry, rfl⟩ := List.mem_map.mp hfield
      obtain ⟨p, hp, rfl⟩ := List.mem_map.mp hentry
      obtain ⟨-, hsection⟩ : p ∈ S ∧ p.section? = none := by
        simpa using (List.mem_filter.mp hp).2
      simpa using Place.key_ne hsection s
    refine .inr ⟨_, _, ?_, Yaml.Value.fields?_ofFields _ _, lists_fieldsIn S c (some s)⟩
    rw [Yaml.Value.among_append, List.filter_append, hroot, List.nil_append]
    cases s <;> simp [Yaml.Value.among, sections, Section.key]

end

end Config

end RemoteDrive
