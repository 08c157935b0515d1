import DriverExtension.Event
import DriverExtension.Settings.Basic
import DriverExtension.Proofs.Document.Alternatives

namespace DriverExtension

open Document (Members Once among)
open Found.Members (get getD get_among getD_among)

/-!
# Objects that write records

Each record is decoded from an object exactly if the form of the object fits, which is a matter of
its other members and of repeated names, and each declared member can be got from it.

* `Request.decode_object_iff`, `Bundle.decode_object_iff`, `Failure.decode_object_iff` — the records
  within events;
* `InstallerSection.decode_object_iff`, `ExtensionSection.decode_object_iff`,
  `Settings.decode_object_iff` — the settings, whose members all have defaults but one.
-/

/-- A request has three members, and all must be there. -/
theorem Request.decode_object_iff (source : Source) (ms : Members) (r : Request) :
    decode source (.object ms) = .ok r ↔
      (shape source).Fits ms ∧ get ms "id" (RequestId.decode source) = .ok r.id ∧
        get ms "kind" (RequestKind.decode source) = .ok r.kind ∧
        get ms "identifier" (Identifier.decode source) = .ok r.identifier := by
  rw [decode, Shape.decode_object_eq_ok_iff (by simp [shape])]
  simp (disch := simp [shape, Shape.declares]) only [get_among, bind_eq_ok_iff]
  simp only [shape, List.forall_mem_cons, Member.passes_required]
  constructor
  · rintro ⟨hfits, -, id, hid, kind, hkind, identifier, hidentifier, hr⟩
    obtain rfl := Except.ok.inj hr
    exact ⟨hfits, hid, hkind, hidentifier⟩
  · rintro ⟨hfits, hid, hkind, hidentifier⟩
    refine ⟨hfits, ?_, _, hid, _, hkind, _, hidentifier, rfl⟩
    exact ⟨⟨_, hid⟩, ⟨_, hkind⟩, ⟨_, hidentifier⟩, by simp⟩

/-- Of a bundle the path may be missing. -/
theorem Bundle.decode_object_iff (source : Source) (ms : Members) (b : Bundle) :
    decode source (.object ms) = .ok b ↔
      (shape source).Fits ms ∧ get ms "bundle_identifier" (Decode.text source) = .ok b.identifier ∧
        get ms "bundle_version" (Decode.text source) = .ok b.version ∧
        get ms "bundle_short_version" (Decode.text source) = .ok b.shortVersion ∧
        getD ms "path" none (Decode.path? source) = .ok b.path := by
  rw [decode, Shape.decode_object_eq_ok_iff (by simp [shape])]
  simp (disch := simp [shape, Shape.declares]) only [get_among, getD_among, bind_eq_ok_iff]
  simp only [shape, List.forall_mem_cons, Member.passes_required,
    Member.passes_optional "path" none]
  constructor
  · rintro ⟨hfits, -, identifier, hidentifier, version, hversion, short, hshort, path, hpath, hb⟩
    obtain rfl := Except.ok.inj hb
    exact ⟨hfits, hidentifier, hversion, hshort, hpath⟩
  · rintro ⟨hfits, hidentifier, hversion, hshort, hpath⟩
    refine ⟨hfits, ?_, _, hidentifier, _, hversion, _, hshort, _, hpath, rfl⟩
    exact ⟨⟨_, hidentifier⟩, ⟨_, hversion⟩, ⟨_, hshort⟩, ⟨_, hpath⟩, by simp⟩

/-- A failure has three members, and all must be there. -/
theorem Failure.decode_object_iff (source : Source) (ms : Members) (f : Failure) :
    decode source (.object ms) = .ok f ↔
      (shape source).Fits ms ∧ get ms "domain" (Decode.text source) = .ok f.domain ∧
        get ms "code" (Decode.integer64 source) = .ok f.code ∧
        get ms "description" (Decode.text source) = .ok f.description := by
  rw [decode, Shape.decode_object_eq_ok_iff (by simp [shape])]
  simp (disch := simp [shape, Shape.declares]) only [get_among, bind_eq_ok_iff]
  simp only [shape, List.forall_mem_cons, Member.passes_required]
  constructor
  · rintro ⟨hfits, -, domain, hdomain, code, hcode, description, hdescription, hf⟩
    obtain rfl := Except.ok.inj hf
    exact ⟨hfits, hdomain, hcode, hdescription⟩
  · rintro ⟨hfits, hdomain, hcode, hdescription⟩
    refine ⟨hfits, ?_, _, hdomain, _, hcode, _, hdescription, rfl⟩
    exact ⟨⟨_, hdomain⟩, ⟨_, hcode⟩, ⟨_, hdescription⟩, by simp⟩

/-- Of the installer's settings the log file may be missing. -/
theorem InstallerSection.decode_object_iff (source : Source) (ms : Members)
    (s : InstallerSection) :
    decode source (.object ms) = .ok s ↔
      (shape source).Fits ms ∧ get ms "log_level" (Decode.text source) = .ok s.logLevel ∧
        getD ms "log_file" none (Decode.path? source) = .ok s.logFile := by
  rw [decode, Shape.decode_object_eq_ok_iff (by simp [shape])]
  simp (disch := simp [shape, Shape.declares]) only [get_among, getD_among, bind_eq_ok_iff]
  simp only [shape, List.forall_mem_cons, Member.passes_required,
    Member.passes_optional "log_file" none]
  constructor
  · rintro ⟨hfits, -, level, hlevel, file, hfile, hs⟩
    obtain rfl := Except.ok.inj hs
    exact ⟨hfits, hlevel, hfile⟩
  · rintro ⟨hfits, hlevel, hfile⟩
    exact ⟨hfits, ⟨⟨_, hlevel⟩, ⟨_, hfile⟩, by simp⟩, _, hlevel, _, hfile, rfl⟩

/-- Of the extension's settings all may be missing. -/
theorem ExtensionSection.decode_object_iff (source : Source) (ms : Members)
    (s : ExtensionSection) :
    decode source (.object ms) = .ok s ↔
      (shape source).Fits ms ∧
        getD ms "identifier" .standard (Identifier.decode source) = .ok s.identifier ∧
        getD ms "replacement" .standard (ReplacementPolicy.decode source) = .ok s.replacement := by
  rw [decode, Shape.decode_object_eq_ok_iff (by simp [shape])]
  simp (disch := simp [shape, Shape.declares]) only [getD_among, bind_eq_ok_iff]
  simp only [shape, List.forall_mem_cons, Member.passes_optional "identifier" Identifier.standard,
    Member.passes_optional "replacement" ReplacementPolicy.standard]
  constructor
  · rintro ⟨hfits, -, identifier, hidentifier, replacement, hreplacement, hs⟩
    obtain rfl := Except.ok.inj hs
    exact ⟨hfits, hidentifier, hreplacement⟩
  · rintro ⟨hfits, hidentifier, hreplacement⟩
    exact ⟨hfits, ⟨⟨_, hidentifier⟩, ⟨_, hreplacement⟩, by simp⟩, _, hidentifier, _, hreplacement,
      rfl⟩

/-- Of the settings both sections may be missing. -/
theorem Settings.decode_object_iff (source : Source) (ms : Members) (s : Settings) :
    decode source (.object ms) = .ok s ↔
      (shape source).Fits ms ∧
        getD ms "installer" .standard (InstallerSection.decode source) = .ok s.installer ∧
        getD ms "extension" .standard (ExtensionSection.decode source) = .ok s.extension := by
  rw [decode, Shape.decode_object_eq_ok_iff (by simp [shape])]
  simp (disch := simp [shape, Shape.declares]) only [getD_among, bind_eq_ok_iff]
  simp only [shape, List.forall_mem_cons,
    Member.passes_optional "installer" InstallerSection.standard,
    Member.passes_optional "extension" ExtensionSection.standard]
  constructor
  · rintro ⟨hfits, -, installer, hinstaller, extension, hextension, hs⟩
    obtain rfl := Except.ok.inj hs
    exact ⟨hfits, hinstaller, hextension⟩
  · rintro ⟨hfits, hinstaller, hextension⟩
    exact ⟨hfits, ⟨⟨_, hinstaller⟩, ⟨_, hextension⟩, by simp⟩, _, hinstaller, _, hextension, rfl⟩

end DriverExtension
