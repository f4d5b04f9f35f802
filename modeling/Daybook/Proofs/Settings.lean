import Daybook.Proofs.Listing.ListGrammar
import Daybook.Proofs.Text.Numeral
import Daybook.Settings

/-!
# Settings that an environment gives

What an environment says about each setting, and what is wrong with it, told by the texts of its
entries.  Settings that were written into an environment are read back.  Reading fails with what is
wrong with the first item that something is wrong with.
-/

namespace Daybook

open Listing (CommaSeparated PageLimits forall₂_trimmed_iff commaSeparated_iff)

/-! ## Whole numbers -/

namespace NumericEntry

variable {entry : NumericEntry} {environment : Environment} {n : Nat}

/-- The number that an entry says: the one that its text is, or the standard one when there is no
text. -/
inductive Says (entry : NumericEntry) (environment : Environment) : Nat → Prop
  | unset (h : environment entry.name = none) : Says entry environment entry.standard
  | set {text : String} {n : Nat} (htext : environment entry.name = some text)
    (hnatural : Text.Natural text.toList n) (hle : n ≤ entry.most) : Says entry environment n

/-- What is wrong with the text of an entry. -/
inductive Misread (entry : NumericEntry) (environment : Environment) : SettingsFault → Prop
  | intro {text : String} {fault : Text.NumeralFault} (htext : environment entry.name = some text)
    (hmisread : Text.Misread entry.most text.toList fault) :
    Misread entry environment (.numeral entry fault)

/-- A number that is not set is the standard one. -/
theorem read_of_unset (h : environment entry.name = none) :
    entry.read environment = .ok entry.standard := by
  rw [read, h]

/-- A number that is set is read from its text and never replaced by the standard one. -/
theorem read_of_set {text : String} (h : environment entry.name = some text) :
    entry.read environment = (Text.readNat entry.most text.toList).mapError (.numeral entry) := by
  rw [read, h]

/-- An entry is read as a number just when the environment says this number. -/
theorem read_eq_ok_iff : entry.read environment = .ok n ↔ entry.Says environment n := by
  constructor
  · intro h
    cases htext : environment entry.name with
    | none =>
      rw [read_of_unset htext] at h
      cases h
      exact .unset htext
    | some text =>
      rw [read_of_set htext, mapError_eq_ok_iff, Text.readNat_eq_ok_iff] at h
      exact .set htext h.1 h.2
  · rintro (hunset | ⟨htext, hnatural, hle⟩)
    · exact read_of_unset hunset
    · rw [read_of_set htext, mapError_eq_ok_iff, Text.readNat_eq_ok_iff]
      exact ⟨hnatural, hle⟩

/-- An entry fails just when what is set there cannot be read, with the reason for it. -/
theorem read_eq_error_iff {fault : SettingsFault} :
    entry.read environment = .error fault ↔ entry.Misread environment fault := by
  constructor
  · intro h
    cases htext : environment entry.name with
    | none =>
      rw [read_of_unset htext] at h
      cases h
    | some text =>
      rw [read_of_set htext, mapError_eq_error_iff] at h
      obtain ⟨cause, hcause, rfl⟩ := h
      exact .intro htext (Text.readNat_eq_error_iff.mp hcause)
  · rintro ⟨htext, hmisread⟩
    rw [read_of_set htext, Text.readNat_eq_error_iff.mpr hmisread]
    rfl

/-- The number is written into the entry, or it is the standard one and the entry is left out. -/
inductive Holds (entry : NumericEntry) (environment : Environment) : Nat → Prop
  | leftOut (h : environment entry.name = none) : Holds entry environment entry.standard
  | decimal {n : Nat} (h : environment entry.name = some (toString n)) : Holds entry environment n

/-- A number that the environment holds in decimal is said by it. -/
theorem Holds.numberSaid (h : entry.Holds environment n) (hle : n ≤ entry.most) :
    entry.Says environment n := by
  cases h with
  | leftOut h => exact .unset h
  | decimal h => exact .set h (Text.natural_toString n) hle

end NumericEntry

/-! ## Page limits -/

/-- What is wrong with two page limits: one of them is 0, or the standard one exceeds the greatest,
or the greatest one does not fit a column. -/
inductive LimitFault.IsOf (limits : PageLimits) : LimitFault → Prop
  | notPositive (h : limits.standard = 0 ∨ limits.most = 0) : IsOf limits .notPositive
  | standardExceedsMost (hmost : 0 < limits.most) (h : limits.most < limits.standard) :
    IsOf limits (.standardExceedsMost limits)
  | mostTooLarge (hstandard : 0 < limits.standard) (hle : limits.standard ≤ limits.most)
    (h : Sql.largestBigInt < limits.most) : IsOf limits (.mostTooLarge limits.most)

/-- The fault that is told is the one that the limits have. -/
theorem LimitFault.of?_eq_some_iff {limits : PageLimits} {fault : LimitFault} :
    LimitFault.of? limits = some fault ↔ fault.IsOf limits := by
  unfold LimitFault.of?
  constructor
  · intro h
    split at h
    · cases h
      exact .notPositive ‹_›
    · split at h
      · cases h
        exact .standardExceedsMost (by omega) ‹_›
      · split at h
        · cases h
          exact .mostTooLarge (by omega) (by omega) ‹_›
        · cases h
  · rintro (h | ⟨hmost, h⟩ | ⟨hstandard, hle, h⟩)
    · rw [if_pos h]
    · rw [if_neg (by omega), if_pos h]
    · rw [if_neg (by omega), if_neg (by omega), if_pos h]

def checkLimits (limits : PageLimits) : Except SettingsFault PageLimits :=
  match LimitFault.of? limits with
  | some fault => .error (.limits fault)
  | none => .ok limits

/-- Limits pass the check just when they are valid, and unchanged. -/
theorem checkLimits_eq_ok_iff {limits other : PageLimits} :
    checkLimits limits = .ok other ↔ limits.Valid ∧ limits = other := by
  rw [checkLimits, ← LimitFault.of?_eq_none_iff]
  cases LimitFault.of? limits <;> simp

theorem checkLimits_eq_error_iff {limits : PageLimits} {fault : SettingsFault} :
    checkLimits limits = .error fault ↔ ∃ cause : LimitFault, cause.IsOf limits ∧
      .limits cause = fault := by
  simp only [checkLimits, ← LimitFault.of?_eq_some_iff]
  cases LimitFault.of? limits <;> simp

namespace Settings

variable {environment : Environment} {settings : Settings}

/-! ## Origins -/

/-- The origins that an entry says: what stands between the commas of its text, less the blanks
around it, or every origin when there is no text. -/
inductive OriginsSaid (environment : Environment) : List String → Prop
  | unset (h : environment originsEntry = none) : OriginsSaid environment ["*"]
  | set {text : String} {elements : List (List Char)} {origins : List String}
    (htext : environment originsEntry = some text)
    (hseparated : CommaSeparated text.toList elements)
    (htrimmed : List.Forall₂ Text.Trimmed elements (origins.map String.toList)) :
    OriginsSaid environment origins

/-- Without a list any origin may ask. -/
theorem readOrigins_of_unset (h : environment originsEntry = none) :
    readOrigins environment = ["*"] := by
  rw [readOrigins, h]

/-- A list is cut at its commas, and each piece is trimmed. -/
theorem map_toList_readOrigins {text : String} (h : environment originsEntry = some text) :
    (readOrigins environment).map String.toList = (Text.pieces ',' text.toList).map Text.trim := by
  rw [readOrigins, h, List.map_map]
  exact List.map_congr_left fun piece _ => String.toList_ofList

/-- The origins are those that the environment says; reading them cannot fail. -/
theorem readOrigins_eq_iff {origins : List String} :
    readOrigins environment = origins ↔ OriginsSaid environment origins := by
  constructor
  · rintro rfl
    cases htext : environment originsEntry with
    | none =>
      rw [readOrigins_of_unset htext]
      exact .unset htext
    | some text =>
      exact .set htext (commaSeparated_iff.mpr rfl)
        (forall₂_trimmed_iff.mpr (map_toList_readOrigins htext).symm)
  · rintro (hunset | ⟨htext, hseparated, htrimmed⟩)
    · exact readOrigins_of_unset hunset
    · have hlists : (readOrigins environment).map String.toList = origins.map String.toList := by
        rw [map_toList_readOrigins htext, commaSeparated_iff.mp hseparated,
          forall₂_trimmed_iff.mp htrimmed]
      exact List.map_injective_iff.mpr (fun _ _ => String.toList_inj.mp) hlists

/-- The origins are written into their entry with commas between them, or every origin is allowed
and the entry is left out. -/
inductive OriginsHeld (environment : Environment) : List String → Prop
  | leftOut (h : environment originsEntry = none) : OriginsHeld environment ["*"]
  | joined {origins : List String} (h : environment originsEntry = some (",".intercalate origins)) :
    OriginsHeld environment origins

/-- Origins that are written with commas between them are said. -/
theorem OriginsHeld.said {origins : List String} (h : OriginsHeld environment origins)
    (hne : origins ≠ []) (hcomma : ∀ origin ∈ origins, ',' ∉ origin.toList)
    (htrimmed : ∀ origin ∈ origins, Text.Trimmed origin.toList origin.toList) :
    OriginsSaid environment origins := by
  cases h with
  | leftOut h => exact .unset h
  | joined h =>
    refine .set h ⟨?_, List.forall_mem_map.mpr hcomma, String.toList_intercalate⟩ ?_
    · exact mt List.map_eq_nil_iff.mp hne
    · rw [List.forall₂_map_left_iff, List.forall₂_map_right_iff, List.forall₂_same]
      exact htrimmed

/-! ## All settings -/

def readDatabaseUrl (environment : Environment) : Except SettingsFault String :=
  match environment databaseEntry with
  | none => .error (.missing databaseEntry)
  | some url => .ok url

theorem readDatabaseUrl_eq_ok_iff {url : String} :
    readDatabaseUrl environment = .ok url ↔ environment databaseEntry = some url := by
  rw [readDatabaseUrl]
  cases environment databaseEntry <;> simp

/-- The address of the database is the one item that must be set. -/
theorem readDatabaseUrl_eq_error_iff {fault : SettingsFault} :
    readDatabaseUrl environment = .error fault ↔
      environment databaseEntry = none ∧ .missing databaseEntry = fault := by
  rw [readDatabaseUrl]
  cases environment databaseEntry <;> simp

-- One step for each item, in the order in which they are looked at.
theorem read_eq_steps (environment : Environment) : read environment = (do
    let port ← NumericEntry.port.read environment
    let databaseUrl ← readDatabaseUrl environment
    let connections ← NumericEntry.connections.read environment
    let standard ← NumericEntry.standardLimit.read environment
    let most ← NumericEntry.largestLimit.read environment
    let limits ← checkLimits { standard, most }
    let timeoutSeconds ← NumericEntry.timeout.read environment
    pure {
      port, databaseUrl, connections, limits, timeoutSeconds,
      origins := readOrigins environment }) := by
  have hlimits : readLimits environment = (do
      let standard ← NumericEntry.standardLimit.read environment
      let most ← NumericEntry.largestLimit.read environment
      checkLimits { standard, most }) := by
    rfl
  rw [read, hlimits, readDatabaseUrl]
  simp only [bind_assoc]
  cases environment databaseEntry <;> rfl

/-- The environment gives these settings. -/
structure SaidBy (settings : Settings) (environment : Environment) : Prop where
  port : NumericEntry.port.Says environment settings.port
  databaseUrl : environment databaseEntry = some settings.databaseUrl
  connections : NumericEntry.connections.Says environment settings.connections
  origins : OriginsSaid environment settings.origins
  standardLimit : NumericEntry.standardLimit.Says environment settings.limits.standard
  largestLimit : NumericEntry.largestLimit.Says environment settings.limits.most
  limits : settings.limits.Valid
  timeout : NumericEntry.timeout.Says environment settings.timeoutSeconds

/-- Settings are read just when the environment says all of them. -/
theorem read_eq_ok_iff : read environment = .ok settings ↔ settings.SaidBy environment := by
  simp only [read_eq_steps, bind_eq_ok_iff, pure_eq_ok_iff, NumericEntry.read_eq_ok_iff,
    readDatabaseUrl_eq_ok_iff, checkLimits_eq_ok_iff]
  constructor
  · rintro ⟨port, hport, url, hurl, connections, hconnections, standard, hstandard, most, hmost,
      limits, ⟨hvalid, rfl⟩, timeout, htimeout, rfl⟩
    exact ⟨hport, hurl, hconnections, readOrigins_eq_iff.mp rfl, hstandard, hmost, hvalid, htimeout⟩
  · intro h
    refine ⟨_, h.port, _, h.databaseUrl, _, h.connections, _, h.standardLimit, _, h.largestLimit, _,
      ⟨h.limits, rfl⟩, _, h.timeout, ?_⟩
    rw [readOrigins_eq_iff.mpr h.origins]

/-! ## What is wrong -/

inductive Item
  | number (entry : NumericEntry)
  | database
  | limits

namespace Item

def inOrder : List Item :=
  [.number .port, .database, .number .connections, .number .standardLimit, .number .largestLimit,
    .limits, .number .timeout]

/-- What is wrong with an item.  Page limits go together or not when there are both of them. -/
inductive Fails (environment : Environment) : Item → SettingsFault → Prop
  | number {entry : NumericEntry} {fault : SettingsFault} (h : entry.Misread environment fault) :
    Fails environment (.number entry) fault
  | database (h : environment databaseEntry = none) :
    Fails environment .database (.missing databaseEntry)
  | limits {limits : PageLimits} {fault : LimitFault}
    (hstandard : NumericEntry.standardLimit.Says environment limits.standard)
    (hmost : NumericEntry.largestLimit.Says environment limits.most) (h : fault.IsOf limits) :
    Fails environment .limits (.limits fault)

variable {fault : SettingsFault}

theorem fails_number_iff {entry : NumericEntry} :
    entry.read environment = .error fault ↔ (number entry).Fails environment fault := by
  rw [NumericEntry.read_eq_error_iff]
  constructor
  · exact .number
  · intro h
    cases h with
    | number h => exact h

theorem fails_database_iff :
    readDatabaseUrl environment = .error fault ↔ database.Fails environment fault := by
  rw [readDatabaseUrl_eq_error_iff]
  constructor
  · rintro ⟨h, rfl⟩
    exact .database h
  · intro h
    cases h with
    | database h => exact ⟨h, rfl⟩

-- An entry says one number only, and so there is no other pair of limits to be wrong.
theorem fails_limits_iff {standard most : Nat}
    (hstandard : NumericEntry.standardLimit.read environment = .ok standard)
    (hmost : NumericEntry.largestLimit.read environment = .ok most) :
    checkLimits { standard, most } = .error fault ↔ Item.limits.Fails environment fault := by
  rw [checkLimits_eq_error_iff]
  constructor
  · rintro ⟨cause, h, rfl⟩
    exact .limits (NumericEntry.read_eq_ok_iff.mp hstandard)
      (NumericEntry.read_eq_ok_iff.mp hmost) h
  · intro h
    cases h with
    | limits hstandard' hmost' h =>
      cases hstandard.symm.trans (NumericEntry.read_eq_ok_iff.mpr hstandard')
      cases hmost.symm.trans (NumericEntry.read_eq_ok_iff.mpr hmost')
      exact ⟨_, h, rfl⟩

end Item

/-- Reading fails with the first item in order that is at fault, and with the fault of this item. -/
theorem read_eq_error_iff {fault : SettingsFault} : read environment = .error fault ↔
    FoundFirst (Item.Fails environment) Item.inOrder fault := by
  rw [read_eq_steps]
  refine FoundFirst.bind_eq_error_iff (fun _ => Item.fails_number_iff) fun port _ => ?_
  refine FoundFirst.bind_eq_error_iff (fun _ => Item.fails_database_iff) fun url _ => ?_
  refine FoundFirst.bind_eq_error_iff (fun _ => Item.fails_number_iff) fun connections _ => ?_
  refine FoundFirst.bind_eq_error_iff (fun _ => Item.fails_number_iff) fun standard hstandard => ?_
  refine FoundFirst.bind_eq_error_iff (fun _ => Item.fails_number_iff) fun most hmost => ?_
  refine FoundFirst.bind_eq_error_iff (fun _ => Item.fails_limits_iff hstandard hmost)
    fun limits _ => ?_
  refine FoundFirst.bind_eq_error_iff (fun _ => Item.fails_number_iff) fun timeout _ => ?_
  exact FoundFirst.pure_eq_error_iff _

/-! ## Settings that were written -/

/-- Settings that can be written into an environment: the numbers are in range, the page limits go
together, and no origin has a comma in it or a blank at an end. -/
structure Writable (settings : Settings) : Prop where
  port_le : settings.port ≤ 0xFFFF
  connections_le : settings.connections ≤ 0xFFFFFFFF
  timeout_le : settings.timeoutSeconds ≤ 0xFFFFFFFFFFFFFFFF
  limits : settings.limits.Valid
  origins_ne_nil : settings.origins ≠ []
  comma_notMem : ∀ origin ∈ settings.origins, ',' ∉ origin.toList
  trimmed : ∀ origin ∈ settings.origins, Text.Trimmed origin.toList origin.toList

/-- The settings are written into the environment.  What has its standard value may be left out. -/
structure HeldBy (settings : Settings) (environment : Environment) : Prop where
  port : NumericEntry.port.Holds environment settings.port
  databaseUrl : environment databaseEntry = some settings.databaseUrl
  connections : NumericEntry.connections.Holds environment settings.connections
  origins : OriginsHeld environment settings.origins
  standardLimit : NumericEntry.standardLimit.Holds environment settings.limits.standard
  largestLimit : NumericEntry.largestLimit.Holds environment settings.limits.most
  timeout : NumericEntry.timeout.Holds environment settings.timeoutSeconds

-- Limits that fit a column fit the wider range of their entries.
theorem HeldBy.saidBy (h : settings.HeldBy environment) (hwritable : settings.Writable) :
    settings.SaidBy environment where
  port := h.port.numberSaid hwritable.port_le
  databaseUrl := h.databaseUrl
  connections := h.connections.numberSaid hwritable.connections_le
  origins := h.origins.said hwritable.origins_ne_nil hwritable.comma_notMem hwritable.trimmed
  standardLimit :=
    h.standardLimit.numberSaid (Nat.le_trans hwritable.limits.standard_le_most
      (Nat.le_trans hwritable.limits.most_le (by decide)))
  largestLimit := h.largestLimit.numberSaid (Nat.le_trans hwritable.limits.most_le (by decide))
  limits := hwritable.limits
  timeout := h.timeout.numberSaid hwritable.timeout_le

/-- Settings that were written are read back as they are.  Page limits that were read go together,
and reading fails with what is wrong with the first item that something is wrong with. -/
theorem read_written_or_first_fault (environment : Environment) :
    (∀ settings : Settings, settings.Writable → settings.HeldBy environment →
        read environment = .ok settings) ∧
      (∀ settings, read environment = .ok settings → settings.limits.Valid) ∧
        ∀ fault, read environment = .error fault ↔
          FoundFirst (Item.Fails environment) Item.inOrder fault :=
  ⟨fun _ hwritable hheld => read_eq_ok_iff.mpr (hheld.saidBy hwritable),
    fun _ h => (read_eq_ok_iff.mp h).limits, fun _ => read_eq_error_iff⟩

-- The greatest page limit keeps its standard value where it is left out.  The other limit of the
-- second environment exceeds it, which is found before the timeout is looked at.
theorem read_of_sparse_environments :
    let sparse : Environment := fun name => List.lookup name
      [("PORT", "8080"), ("DATABASE_URL", "postgres://localhost/daybook"),
        ("CORS_ALLOWED_ORIGINS", "https://a.test,https://b.test"), ("PAGE_LIMIT_DEFAULT", "25")]
    let crossed : Environment := fun name => List.lookup name
      [("DATABASE_URL", "postgres://localhost/daybook"), ("PAGE_LIMIT_DEFAULT", "200"),
        ("QUERY_TIMEOUT_SECS", "soon")]
    let settings : Settings :=
      { port := 8080, databaseUrl := "postgres://localhost/daybook", connections := 10,
        origins := ["https://a.test", "https://b.test"], limits := ⟨25, 100⟩, timeoutSeconds := 30 }
    read sparse = .ok settings ∧ settings.limits.Valid ∧
      FoundFirst (Item.Fails crossed) Item.inOrder
        (.limits (.standardExceedsMost ⟨200, 100⟩)) := by
  intro sparse crossed settings
  have hwritable : settings.Writable :=
    { port_le := by decide
      connections_le := by decide
      timeout_le := by decide
      limits := ⟨by decide, by decide, by decide⟩
      origins_ne_nil := by decide
      comma_notMem := by decide
      trimmed := by
        have htrim : ∀ origin ∈ settings.origins, Text.trim origin.toList = origin.toList := by
          decide
        exact fun origin h => Text.trim_eq_iff.mp (htrim origin h) }
  have hheld : settings.HeldBy sparse :=
    { port := .decimal (by decide)
      databaseUrl := rfl
      connections := .leftOut rfl
      origins := .joined rfl
      standardLimit := .decimal (by decide)
      largestLimit := .leftOut rfl
      timeout := .leftOut rfl }
  have hread := (read_written_or_first_fault sparse).1 settings hwritable hheld
  exact ⟨hread, (read_written_or_first_fault sparse).2.1 settings hread,
    ((read_written_or_first_fault crossed).2.2 _).mp (by rfl)⟩

end Settings

end Daybook
