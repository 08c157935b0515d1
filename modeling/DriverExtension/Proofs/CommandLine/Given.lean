import DriverExtension.CommandLine.Parse
import DriverExtension.Proofs.Except

namespace DriverExtension.CommandLine

open Log

/-!
# What a command line gives its options

The values of the options can be read off the words of a command line: a value is written in the
word of its option, or it is the word after it.  The parser looks at values only late, and at a word
only once it knows whether a value is awaited; where it accepts a command line it comes to the same.

* `given` — the values that words give to options, in order;
* `Arguments.value` — the value of an option among arguments, as it was written;
* `Progress.outlook` — the values that the options have if nothing fails;
* `Progress.resolve_outlook`, `Progress.option_outlook`, `Progress.flag_outlook` — no step of the
  parser changes the outlook;
* `parse_value` — in an accepted command line every option has the value that is given.
-/

/-- The option that a word names, with the value that is written in the word, if one is. -/
def Word.setting? : Word → Option (Setting × Option String)
  | .long name value => (Setting.named? name).map (·, value)
  | .short letter rest => (Setting.lettered? letter).map (·, attached? rest)
  | .separator | .plain => none

/-- The values that words give to options, after an option that awaits its value or after none. -/
def givenAfter : Option Setting → List String → List (Setting × String)
  | _, [] => []
  | some s, value :: rest => (s, value) :: givenAfter none rest
  | none, word :: rest =>
    match (Word.ofString word).setting? with
    | some (s, some value) => (s, value) :: givenAfter none rest
    | some (s, none) => givenAfter (some s) rest
    | none => givenAfter none rest

/-- The values that the words of a command line give to options. -/
def given (words : List String) : List (Setting × String) := givenAfter none words

example : given ["-l=debug", "--config", "~/a.toml", "install"]
    = [(.logLevel, "debug"), (.config, "~/a.toml")] := by decide

/-- The value of an option, as it was written. -/
def Arguments.value (a : Arguments) : Setting → Option String
  | .config => a.config
  | .logLevel => a.logLevel.map Level.word
  | .identifier => a.identifier.map Identifier.text

namespace Progress

/-- The values that are still to come: the one that was not looked at yet, and those that the rest
    of the words gives. -/
def ahead (p : Progress) (words : List String) : List (Setting × String) :=
  match p.pending with
  | .nothing => givenAfter none words
  | .awaiting s => givenAfter (some s) words
  | .given s value => (s, value) :: givenAfter none words

/-- The value that an option has in the end, if nothing fails on the way. -/
def outlook (p : Progress) (words : List String) (s : Setting) : Option String :=
  (p.arguments.value s).or ((p.ahead words).lookup s)

/-! ### Values that are looked at -/

/-- An option is set exactly if it has a value. -/
theorem isSet_eq (p : Progress) (s : Setting) : p.isSet s = (p.arguments.value s).isSome := by
  cases s <;> simp [isSet, Arguments.value]

/-- A value that is looked at becomes the value of its option, which had none before. -/
theorem assign_eq_ok (p q : Progress) (s : Setting) (value : String)
    (h : p.assign s value = .ok q) :
    q.pending = .nothing ∧ p.arguments.value s = none ∧
      ∀ s', q.arguments.value s' = if s' = s then some value else p.arguments.value s' := by
  unfold assign at h
  split at h
  · cases h
  rename_i hset
  rw [isSet_eq, Bool.not_eq_true, Option.isSome_eq_false_iff, Option.isNone_iff_eq_none] at hset
  cases s with
  | config =>
    dsimp only at h
    split at h
    · cases h
    · obtain rfl := Except.ok.inj h
      refine ⟨rfl, hset, fun s' => ?_⟩
      cases s' <;> rfl
  | logLevel =>
    dsimp only at h
    split at h
    · cases h
    split at h
    · rename_i level hlevel
      obtain rfl := Except.ok.inj h
      refine ⟨rfl, hset, fun s' => ?_⟩
      cases s' with
      | logLevel => exact congrArg some (Level.word_of_ofWord? hlevel)
      | config => rfl
      | identifier => rfl
    · cases h
  | identifier =>
    dsimp only at h
    split at h
    · rename_i i hi
      obtain rfl := Except.ok.inj h
      refine ⟨rfl, hset, fun s' => ?_⟩
      cases s' with
      | identifier => exact congrArg some (Identifier.text_of_ofString? hi)
      | config => rfl
      | logLevel => rfl
    · cases h

/-- Looking at a value changes nothing about the outlook. -/
theorem assign_outlook (p q : Progress) (s : Setting) (value : String)
    (h : p.assign s value = .ok q) (words : List String) (s' : Setting) :
    q.outlook words s'
      = (p.arguments.value s').or (((s, value) :: givenAfter none words).lookup s') := by
  obtain ⟨hpending, hnone, hvalue⟩ := assign_eq_ok p q s value h
  rw [outlook, ahead, hpending, hvalue, List.lookup_cons]
  by_cases hs : s' = s
  · rw [if_pos hs, hs, hnone, beq_self_eq_true]
    rfl
  · rw [if_neg hs, beq_false_of_ne hs]

/-- What is pending is looked at before the parser goes on, unless a value is awaited. -/
theorem resolve_outlook (p q : Progress) (h : p.resolve = .ok q) :
    q.pending = .nothing ∧ (∀ s, p.pending ≠ .awaiting s) ∧
      ∀ words s, q.outlook words s = p.outlook words s := by
  unfold resolve at h
  split at h
  · rename_i hp
    obtain rfl := Except.ok.inj h
    exact ⟨hp, by simp [hp], fun _ _ => rfl⟩
  · cases h
  · rename_i s value hp
    have hassign := (mapError_eq_ok_iff _ _ _).mp h
    refine ⟨(assign_eq_ok p q s value hassign).1, by simp [hp], ?_⟩
    intro words s'
    rw [assign_outlook p q s value hassign, outlook, ahead, hp]

/-! ### Words -/

/-- Where nothing is pending, the rest of the words gives what is still to come. -/
theorem outlook_of_nothing (p : Progress) (hp : p.pending = .nothing) (words : List String)
    (s : Setting) :
    p.outlook words s = (p.arguments.value s).or ((givenAfter none words).lookup s) := by
  rw [outlook, ahead, hp]

/-- An option leads to its value, which is written with it or is the next word. -/
theorem option_outlook (p q : Progress) (s : Setting) (value : Option String)
    (h : p.option s value = .ok q) (word : String) (rest : List String)
    (hword : (Word.ofString word).setting? = some (s, value)) (s' : Setting) :
    q.outlook rest s' = p.outlook (word :: rest) s' := by
  obtain ⟨p', hresolve, h⟩ := (bind_eq_ok_iff _ _ _).mp h
  obtain ⟨hpending, -, houtlook⟩ := resolve_outlook p p' hresolve
  rw [← houtlook, outlook_of_nothing p' hpending]
  cases value with
  | some value =>
    have hassign := (mapError_eq_ok_iff _ _ _).mp h
    rw [assign_outlook p' q s value hassign, givenAfter, hword]
  | none =>
    obtain rfl := Except.ok.inj h
    rw [outlook, ahead, givenAfter, hword]

/-- A flag gives no value to an option. -/
theorem flag_outlook (p q : Progress) (f : Flag) (help : String) (h : p.flag f help = .ok q)
    (word : String) (rest : List String) (hword : (Word.ofString word).setting? = none)
    (s : Setting) : q.outlook rest s = p.outlook (word :: rest) s := by
  obtain ⟨p', hresolve, h⟩ := (bind_eq_ok_iff _ _ _).mp h
  obtain ⟨hpending, -, houtlook⟩ := resolve_outlook p p' hresolve
  rw [← houtlook, outlook_of_nothing p' hpending, givenAfter, hword]
  cases f with
  | help => cases h
  | version => cases h
  | saveConfig =>
    dsimp only at h
    split at h
    · cases h
    · obtain rfl := Except.ok.inj h
      refine (outlook_of_nothing { p' with arguments := _ } hpending rest s).trans ?_
      cases s <;> rfl

/-- A long option leads to its value. -/
theorem long_outlook (p q : Progress) (name : String) (value : Option String)
    (h : p.long name value = .ok q) (word : String) (rest : List String)
    (hword : Word.ofString word = .long name value) (s : Setting) :
    q.outlook rest s = p.outlook (word :: rest) s := by
  unfold long at h
  split at h
  · rename_i s' hs
    exact option_outlook p q s' _ h word rest (by simp [hword, Word.setting?, hs]) s
  · rename_i f hs hf
    exact flag_outlook p q f _ h word rest (by simp [hword, Word.setting?, hs]) s
  · cases h
  · cases h

/-- An option by its letter leads to its value. -/
theorem short_outlook (p q : Progress) (letter : Char) (more : List Char)
    (h : p.short letter more = .ok q) (word : String) (rest : List String)
    (hword : Word.ofString word = .short letter more) (s : Setting) :
    q.outlook rest s = p.outlook (word :: rest) s := by
  unfold short at h
  split at h
  · rename_i s' hs
    exact option_outlook p q s' _ h word rest (by simp [hword, Word.setting?, hs]) s
  · rename_i f hs hf
    exact flag_outlook p q f _ h word rest (by simp [hword, Word.setting?, hs]) s
  · cases h

end Progress

/-! ### Commands -/

/-- The word of a command names no option. -/
theorem setting?_of_command (word : String) (c : Command) (h : Command.named? word = some c) :
    (Word.ofString word).setting? = none := by
  have hname : c.name = word := by
    rw [Command.named?] at h
    simpa using List.find?_some h
  rw [← hname]
  cases c <;> rfl

/-- What may follow a command gives no value to an option. -/
theorem givenAfter_of_afterCommand (c : Command) (words : List String)
    (h : afterCommand c words = .ok ()) : givenAfter none words = [] := by
  unfold afterCommand at h
  split at h
  · rfl
  rename_i word rest
  split at h
  · rename_i hword
    rw [givenAfter, hword]
    rfl
  -- whatever else follows a command is refused
  · cases h
  · split at h <;> cases h
  · split at h <;> cases h
  · cases h

/-! ### Command lines -/

/-- The parser gives every option the value of its outlook. -/
theorem parseFrom_value (p : Progress) (words : List String) (a : Arguments)
    (h : parseFrom p words = .ok a) (s : Setting) : a.value s = p.outlook words s := by
  -- on the words, since the parser reads them from the left
  induction words generalizing p with
  | nil =>
    obtain ⟨q, hresolve, rfl⟩ := (map_eq_ok_iff _ _ _).mp h
    obtain ⟨hpending, -, houtlook⟩ := p.resolve_outlook q hresolve
    rw [← houtlook, q.outlook_of_nothing hpending]
    exact (Option.or_none).symm
  | cons word rest ih =>
    rw [parseFrom] at h
    split at h
    · cases h
    split at h
    · rename_i c hc
      have hnamed : Command.named? word = some c := by
        unfold commandOf? at hc
        split at hc
        · cases hc
        · exact hc
      obtain ⟨hafter, h⟩ := (bind_unit_eq_ok_iff _ _ _).mp h
      obtain ⟨q, hresolve, h⟩ := (bind_eq_ok_iff _ _ _).mp h
      obtain rfl := Except.ok.inj h
      obtain ⟨hpending, -, houtlook⟩ := p.resolve_outlook q hresolve
      rw [← houtlook, q.outlook_of_nothing hpending, givenAfter, setting?_of_command word c hnamed]
      dsimp only
      rw [givenAfter_of_afterCommand c rest hafter]
      cases s <;> simp [Arguments.value]
    · rename_i hc
      split at h
      · rename_i hword
        cases rest with
        | cons next rest =>
          rw [afterSeparator] at h
          split at h <;> cases h
        | nil =>
          obtain ⟨q, hresolve, rfl⟩ := (map_eq_ok_iff _ _ _).mp h
          obtain ⟨hpending, -, houtlook⟩ := p.resolve_outlook q hresolve
          rw [← houtlook, q.outlook_of_nothing hpending, givenAfter, hword]
          exact (Option.or_none).symm
      · rename_i name value hword
        obtain ⟨q, hlong, h⟩ := (bind_eq_ok_iff _ _ _).mp h
        rw [ih q h, p.long_outlook q name value hlong word rest hword]
      · rename_i letter more hword
        obtain ⟨q, hshort, h⟩ := (bind_eq_ok_iff _ _ _).mp h
        rw [ih q h, p.short_outlook q letter more hshort word rest hword]
      · split at h
        · rename_i s' hp
          rw [ih _ h, Progress.outlook, Progress.outlook, Progress.ahead, Progress.ahead, hp]
          rfl
        · cases h

/-- **Values.**  In an accepted command line every option has the value that the words give it, as
    it was written, and no other. -/
theorem parse_value (words : List String) (a : Arguments) (h : parse words = .ok a) (s : Setting) :
    a.value s = (given words).lookup s := by
  rw [parseFrom_value .start words a h s, Progress.outlook_of_nothing _ rfl]
  cases s <;> rfl

end DriverExtension.CommandLine
