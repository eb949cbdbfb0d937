import SchemaAccess.Proofs.ConfiguredTypes

namespace SchemaAccess.Access

/-- Settings stand under a key as an object, or they are null or left out. -/
inductive SettingsAt (fields : Entries Value) (key : String) : Option (Entries Value) → Prop
  | absent (h : fields.find? key = none) : SettingsAt fields key none
  | null (h : fields.find? key = some .null) : SettingsAt fields key none
  | given {settings : Entries Value} (h : fields.find? key = some (.object settings)) :
      SettingsAt fields key (some settings)

/-- An entry says a mode: an object with the word for its type, and with its settings. -/
inductive SaysMode : Value → Mode → Prop
  | entry {fields : Entries Value} {m : Mode}
      (htype : fields.find? "authenticationType" = some (.string (Vocabulary.word m.type)))
      (huserPool : SettingsAt fields "userPoolConfig" m.userPool)
      (hopenIdConnect : SettingsAt fields "openIDConnectConfig" m.openIdConnect) :
      SaysMode (.object fields) m

/-- The entries for further modes are listed. Left out, or given by anything that does not count as present,
there are none. -/
inductive FurtherEntries (fields : Entries Value) : List Value → Prop
  | absent (h : fields.find? "additionalAuthenticationProviders" = none) : FurtherEntries fields []
  | hollow {v : Value} (h : fields.find? "additionalAuthenticationProviders" = some v)
      (hv : v.isPresent = false) : FurtherEntries fields []
  | listed {items : List Value} (h : fields.find? "additionalAuthenticationProviders" = some (.list items)) :
      FurtherEntries fields items

/-- A value says a default mode and further ones, in order. -/
inductive SaysModes : Value → Mode → List Mode → Prop
  | config {fields : Entries Value} {first : Value} {main : Mode} {items : List Value} {additional : List Mode}
      (hfirst : fields.find? "defaultAuthentication" = some first) (hmain : SaysMode first main)
      (hitems : FurtherEntries fields items) (hadditional : List.Forall₂ SaysMode items additional) :
      SaysModes (.object fields) main additional

/-- A failure that lies in data that was given: in its value, or in its kind. -/
def IsDataFault (e : Failure) : Prop := (∃ fault, e = .value fault) ∨ ∃ fault, e = .shape fault

def FailsByData {α : Type} (x : Except Failure α) : Prop := ∀ e, x = .error e → IsDataFault e

namespace FailsByData

variable {α β : Type}

theorem ok (a : α) : FailsByData (.ok a) := by
  intro e he
  contradiction

theorem value (fault : ValueFault) : FailsByData (throw (.value fault) : Except Failure α) := by
  intro e he
  exact .inl ⟨fault, (Except.error.inj he).symm⟩

theorem shape (fault : ShapeFault) : FailsByData (throw (.shape fault) : Except Failure α) := by
  intro e he
  exact .inr ⟨fault, (Except.error.inj he).symm⟩

theorem bind {x : Except Failure α} {k : α → Except Failure β} (hx : FailsByData x)
    (hk : ∀ a, FailsByData (k a)) : FailsByData (x >>= k) := by
  cases x with
  | ok a => exact hk a
  | error fault =>
    intro e he
    apply hx
    exact congrArg Except.error (Except.error.inj he)

theorem mapM {f : α → Except Failure β} (hf : ∀ a, FailsByData (f a)) (items : List α) :
    FailsByData (items.mapM f) := by
  induction items with
  | nil => exact ok []
  | cons a items ih =>
    rw [List.mapM_cons]
    exact (hf a).bind fun b => ih.bind fun bs => ok (b :: bs)

end FailsByData

theorem field_eq_string_iff (fields : Entries Value) (key text : String) :
    Value.field fields key = .string text ↔ fields.find? key = some (.string text) := by
  unfold Value.field
  cases fields.find? key <;> simp

theorem ofValue?_authenticationType_eq_some_iff (v : Value) (type : AuthenticationType) :
    Vocabulary.ofValue? v = some type ↔ v = .string (Vocabulary.word type) :=
  ofValue?_eq_some_iff (by intro a; cases a <;> decide) v type

namespace Mode

theorem requireObject_eq_ok_iff (key : String) (v : Value) (fields : Entries Value) :
    requireObject key v = .ok fields ↔ v = .object fields := by
  cases v <;> simp [requireObject, pure, Except.pure]

theorem failsByData_requireObject (key : String) (v : Value) : FailsByData (requireObject key v) := by
  cases v with
  | object fields => exact .ok fields
  | _ => exact .shape _

theorem settings_eq_ok_iff (key : String) (fields : Entries Value) (name : String)
    (o : Option (Entries Value)) : settings key fields name = .ok o ↔ SettingsAt fields name o := by
  constructor
  · intro h
    unfold settings Value.field at h
    cases hfind : fields.find? name with
    | none =>
      rw [hfind] at h
      obtain rfl := Except.ok.inj h
      exact .absent hfind
    | some v =>
      rw [hfind] at h
      cases v with
      | null =>
        obtain rfl := Except.ok.inj h
        exact .null hfind
      | object given =>
        obtain rfl := Except.ok.inj h
        exact .given hfind
      | _ => contradiction
  · rintro (h | h | h) <;> simp [settings, Value.field, h] <;> rfl

theorem failsByData_settings (key : String) (fields : Entries Value) (name : String) :
    FailsByData (settings key fields name) := by
  unfold settings
  split
  · exact .ok none
  · apply (failsByData_requireObject _ _).bind
    intro settings
    exact .ok (some settings)

theorem ofValue_eq_ok_iff (key : String) (v : Value) (m : Mode) : ofValue key v = .ok m ↔ SaysMode v m := by
  simp only [ofValue, bind_eq_ok_iff, requireObject_eq_ok_iff, settings_eq_ok_iff]
  constructor
  · rintro ⟨fields, rfl, userPool, huserPool, openIdConnect, hopenIdConnect, h⟩
    split at h
    · rename_i type htype
      rw [ofValue?_authenticationType_eq_some_iff, field_eq_string_iff] at htype
      obtain rfl := Except.ok.inj h
      exact .entry htype huserPool hopenIdConnect
    · exact absurd h (throw_ne_ok _ m)
  · rintro ⟨htype, huserPool, hopenIdConnect⟩
    refine ⟨_, rfl, _, huserPool, _, hopenIdConnect, ?_⟩
    rw [← field_eq_string_iff, ← ofValue?_authenticationType_eq_some_iff] at htype
    rw [htype]
    rfl

theorem failsByData_ofValue (key : String) (v : Value) : FailsByData (ofValue key v) := by
  apply (failsByData_requireObject key v).bind
  intro fields
  apply (failsByData_settings key fields _).bind
  intro userPool
  apply (failsByData_settings key fields _).bind
  intro openIdConnect
  dsimp only
  split
  · exact .ok _
  · exact .value _

end Mode

namespace Config

theorem firstRepeated_eq_none_of_nodup {seen types : List AuthenticationType} (h : (seen ++ types).Nodup) :
    firstRepeated seen types = none := by
  induction types generalizing seen with
  | nil => rfl
  | cons t types ih =>
    rw [firstRepeated, if_neg (notMem_of_nodup_append_cons h)]
    exact ih (List.perm_middle.nodup_iff.1 h)

theorem ofModes_modes (c : Config) : ofModes c.main c.additional = .ok c := by
  have hnone : firstRepeated [c.main.type] (c.additional.map (·.type)) = none :=
    firstRepeated_eq_none_of_nodup c.distinct
  unfold ofModes
  split
  · rename_i type hsome
    rw [hnone] at hsome
    contradiction
  · rfl

theorem ofModes_eq_ok_iff (main : Mode) (additional : List Mode) (c : Config) :
    ofModes main additional = .ok c ↔ c.main = main ∧ c.additional = additional := by
  constructor
  · intro h
    unfold ofModes at h
    split at h
    · contradiction
    · obtain rfl := Except.ok.inj h
      exact ⟨rfl, rfl⟩
  · rintro ⟨rfl, rfl⟩
    exact ofModes_modes c

theorem failsByData_ofModes (main : Mode) (additional : List Mode) : FailsByData (ofModes main additional) := by
  unfold ofModes
  split
  · exact .value _
  · exact .ok _

theorem additionalOfValues_eq_ok_iff (items : List Value) (modes : List Mode) :
    additionalOfValues items = .ok modes ↔ List.Forall₂ SaysMode items modes := by
  -- the key of an entry tells its position, which matters to messages alone
  rw [additionalOfValues, mapM_eq_ok_iff]
  simp only [Mode.ofValue_eq_ok_iff]
  rw [← List.forall₂_map_left_iff (f := Prod.fst) (R := SaysMode), List.zipIdx_map_fst]

theorem failsByData_additionalOfValues (items : List Value) : FailsByData (additionalOfValues items) :=
  .mapM (fun _ => Mode.failsByData_ofValue _ _) _

theorem orElse_eq_list_iff (fields : Entries Value) (items : List Value) :
    (Value.field fields "additionalAuthenticationProviders").orElse (.list []) = .list items ↔
      FurtherEntries fields items := by
  constructor
  · intro h
    cases hfind : fields.find? "additionalAuthenticationProviders" with
    | none =>
      simp only [Value.field, hfind] at h
      obtain rfl := Value.list.inj h
      exact .absent hfind
    | some v =>
      simp only [Value.field, hfind, Option.getD_some, Value.orElse] at h
      split at h
      · subst h
        exact .listed hfind
      · rename_i hv
        obtain rfl := Value.list.inj h
        exact .hollow hfind (by simpa using hv)
  · rintro (h | ⟨h, hv⟩ | h)
    · simp [Value.field, h, Value.orElse, Value.isPresent]
    · simp [Value.field, h, Value.orElse, hv]
    · cases items <;> simp [Value.field, h, Value.orElse, Value.isPresent]

/-- A configuration is read from a value just if the value says its modes. -/
theorem ofValue_eq_ok_iff (v : Value) (c : Config) :
    ofValue v = .ok c ↔ SaysModes v c.main c.additional := by
  simp only [ofValue, bind_eq_ok_iff, Mode.requireObject_eq_ok_iff]
  constructor
  · rintro ⟨fields, rfl, h⟩
    cases hfirst : fields.find? "defaultAuthentication" with
    | none =>
      rw [hfirst] at h
      exact absurd h (throw_ne_ok _ c)
    | some first =>
      rw [hfirst] at h
      cases hitems : (Value.field fields "additionalAuthenticationProviders").orElse (.list []) with
      | list items =>
        simp only [hitems, pure_bind, bind_eq_ok_iff, Mode.ofValue_eq_ok_iff,
          additionalOfValues_eq_ok_iff, ofModes_eq_ok_iff] at h
        obtain ⟨main, hmain, additional, hadditional, rfl, rfl⟩ := h
        exact .config hfirst hmain ((orElse_eq_list_iff fields items).1 hitems) hadditional
      | _ =>
        rw [hitems] at h
        exact absurd h (throw_ne_ok _ c)
  · rintro ⟨hfirst, hmain, hitems, hadditional⟩
    rw [← orElse_eq_list_iff] at hitems
    refine ⟨_, rfl, ?_⟩
    simp only [hfirst, hitems, pure_bind, bind_eq_ok_iff, Mode.ofValue_eq_ok_iff,
      additionalOfValues_eq_ok_iff, ofModes_eq_ok_iff]
    exact ⟨_, hmain, _, hadditional, rfl, rfl⟩

theorem failsByData_ofValue (v : Value) : FailsByData (ofValue v) := by
  apply (Mode.failsByData_requireObject _ v).bind
  intro fields
  split
  · exact .value _
  · split
    · apply (FailsByData.ok _).bind
      intro items
      apply (Mode.failsByData_ofValue _ _).bind
      intro main
      apply (failsByData_additionalOfValues items).bind
      intro additional
      exact failsByData_ofModes main additional
    · exact .shape _

theorem nodup_providers (c : Config) : c.providers.Nodup := by
  have hinj : Function.Injective AuthenticationType.provider := by
    intro t t' h
    rw [← Provider.authenticationType_provider t, h, Provider.authenticationType_provider]
  have htypes : (c.modes.map (·.type)).Nodup := c.distinct
  have hmap : c.providers = (c.modes.map (·.type)).map AuthenticationType.provider := by
    rw [providers, List.map_map]
    rfl
  rw [hmap]
  exact htypes.map hinj

/-- What a configuration tells of the value that it is read from. -/
structure IsReadFrom (v : Value) (c : Config) : Prop where
  /-- Each mode comes with the settings of its own entry. -/
  entries : SaysModes v c.main c.additional
  providers : c.providers = c.main.type.provider :: c.additional.map (·.type.provider)
  nodup : c.providers.Nodup
  configured : ∀ p, c.isConfigured p = true ↔
    p.authenticationType = c.main.type ∨ ∃ m ∈ c.additional, p.authenticationType = m.type

theorem isReadFrom_of_saysModes {v : Value} {c : Config} (h : SaysModes v c.main c.additional) :
    IsReadFrom v c where
  entries := h
  providers := rfl
  nodup := nodup_providers c
  configured p := by
    rw [isConfigured_iff, types, modes, List.map_cons, List.mem_cons, List.mem_map]
    simp only [eq_comm]

/-- Of all values, those are read that say modes of which each has a type of its own. What is read keeps
what they say. All others are refused as data, for what they hold or for the kind of it. -/
theorem ofValue_grammar (v : Value) :
    ((∃ c, ofValue v = .ok c) ↔ ∃ main additional, SaysModes v main additional ∧
      (main.type :: additional.map (·.type)).Nodup) ∧
    (∀ c, ofValue v = .ok c → IsReadFrom v c) ∧
    ∀ e, ofValue v = .error e → IsDataFault e := by
  refine ⟨?_, ?_, failsByData_ofValue v⟩
  · constructor
    · rintro ⟨c, h⟩
      exact ⟨c.main, c.additional, (ofValue_eq_ok_iff v c).1 h, c.distinct⟩
    · rintro ⟨main, additional, hmodes, hdistinct⟩
      exact ⟨⟨main, additional, hdistinct⟩, (ofValue_eq_ok_iff v _).2 hmodes⟩
  · intro c h
    exact isReadFrom_of_saysModes ((ofValue_eq_ok_iff v c).1 h)

/-- The default mode counts where repetitions are looked for. -/
example : ofValue (.object [("defaultAuthentication", .object [("authenticationType", .string "AWS_IAM")]),
      ("additionalAuthenticationProviders", .list [.object [("authenticationType", .string "AWS_IAM")]])]) =
    .error (.value (.configuredTwice .iam)) := by
  rfl

end Config

end SchemaAccess.Access
