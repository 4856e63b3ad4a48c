import Patchbay.Daemon.Arguments
import Patchbay.Proofs.Text.Digits
/-!
# Flags, one behind the other

A command line is read flag by flag, and the word behind a flag that takes a value belongs to it whatever it looks like.
`Line` says which flags some words spell. All words are a line and then nothing, or a line and then something that is no
flag (`exists_line`), which `parseOver` reads or refuses whatever was said before. So words behind others are laid over
them, every choice of arguments can be written as flags, and laying arguments over settings twice is laying their union
over them once (`later_words_are_laid_over_earlier_ones`).
-/

namespace Patchbay.Daemon

/-- What one flag says. -/
inductive Flag where
  | sink (name : String)
  | source (name : String)
  | config (path : String)
  | gainPid (pid : UInt32)
  | noRouter
  | writeConfig
  | help
  deriving DecidableEq, Repr

namespace Flag

/-- What a flag changes. -/
def set (a : Arguments) : Flag → Arguments
  | sink name => { a with sink := some name }
  | source name => { a with source := some name }
  | config path => { a with config := some path }
  | gainPid pid => { a with gainPid := some pid }
  | noRouter => { a with noRouter := true }
  | writeConfig => { a with writeConfig := true }
  | help => { a with help := true }

/-- The words of a flag. -/
def words : Flag → List String
  | sink name => ["--sink", name]
  | source name => ["--source", name]
  | config path => ["--config", path]
  | gainPid pid => ["--gain-pid", toString pid.toNat]
  | noRouter => ["--no-router"]
  | writeConfig => ["--write-config"]
  | help => ["--help"]

/-- Which words spell a flag. -/
inductive Spells : Flag → List String → Prop
  | sink (name : String) : Spells (.sink name) ["--sink", name]
  | source (name : String) : Spells (.source name) ["--source", name]
  | config (path : String) : Spells (.config path) ["--config", path]
  | gainPid {text : String} {pid : UInt32} (h : parsePid text = .ok pid) : Spells (.gainPid pid) ["--gain-pid", text]
  | noRouter : Spells .noRouter ["--no-router"]
  | writeConfig : Spells .writeConfig ["--write-config"]
  | short : Spells .help ["-h"]
  | help : Spells .help ["--help"]

end Flag

/-! ## Process ids -/

theorem pidOfDigits_eq {cs : List Char} (hdigits : ∀ c ∈ cs, c.isDigit = true) {n : Nat}
    (hsize : Nat.ofDigitChars 10 cs n < UInt32.size) : pidOfDigits n cs = .ok (Nat.ofDigitChars 10 cs n) := by
  induction cs generalizing n with
  | nil => rfl
  | cons c cs ih =>
    obtain ⟨hc, hcs⟩ := List.forall_mem_cons.1 hdigits
    rw [Nat.ofDigitChars_cons, Nat.mul_comm] at hsize ⊢
    have hfits := Nat.lt_of_le_of_lt (Text.le_ofDigitChars ..) hsize
    rw [pidOfDigits, hc, Bool.not_true, if_neg Bool.false_ne_true]
    exact (if_neg (Nat.not_le.2 hfits)).trans (ih hcs hsize)

theorem parsePid_toString (pid : UInt32) : parsePid (toString pid.toNat) = .ok pid := by
  have htext : (toString pid.toNat).toList = Nat.toDigits 10 pid.toNat := Nat.toList_repr
  have hread : pidOfDigits 0 (Nat.toDigits 10 pid.toNat) = .ok pid.toNat := by
    have hvalue : Nat.ofDigitChars 10 (Nat.toDigits 10 pid.toNat) 0 = pid.toNat := Nat.ofDigitChars_ten_toDigits
    refine (pidOfDigits_eq (fun c => Text.isDigit_of_mem_toDigits) ?_).trans (congrArg _ hvalue)
    rw [hvalue]
    exact pid.toNat_lt
  rw [parsePid, htext]
  split
  · exact absurd ‹_› Nat.toDigits_ne_nil
  · rename_i c rest hplus
    have hdigit : '+'.isDigit = true := Text.isDigit_of_mem_toDigits (hplus ▸ List.mem_cons_self)
    exact absurd hdigit (by decide)
  · rw [hread, Except.map, UInt32.ofNat_toNat]

namespace Arguments

/-! ## Reading flag by flag -/

/-- The flags that take a value. -/
def withValue : List String := ["--sink", "--source", "--config", "--gain-pid"]

/-- The flags that take none. -/
def withoutValue : List String := ["--no-router", "--write-config", "-h", "--help"]

/-- What is wrong with words that begin with no flag. -/
inductive Refused : List String → ArgumentError → Prop
  | missingValue {flag : String} (h : flag ∈ withValue) : Refused [flag] (.missingValue flag)
  | invalidPid {text : String} {cause : PidError} (h : parsePid text = .error cause) (rest : List String) :
      Refused ("--gain-pid" :: text :: rest) (.invalidPid text cause)
  | unknown {word : String} (h : word ∉ withValue) (h' : word ∉ withoutValue) (rest : List String) :
      Refused (word :: rest) (.unknown word)

/-- What flags say one after the other. -/
def setAll (a : Arguments) (fs : List Flag) : Arguments := fs.foldl Flag.set a

/-- Words that spell flags, one behind the other. -/
inductive Line : List Flag → List String → Prop
  | nil : Line [] []
  | cons {f : Flag} {fs : List Flag} {ws rest : List String} (hf : f.Spells ws) (hline : Line fs rest) :
      Line (f :: fs) (ws ++ rest)

section Reading
variable {a b : Arguments} {f : Flag} {fs : List Flag} {ws words rest : List String} {e : ArgumentError}

theorem parseOver_flag (h : f.Spells ws) : a.parseOver (ws ++ rest) = (f.set a).parseOver rest := by
  cases h with
  | gainPid hpid =>
    rw [List.cons_append, List.cons_append, parseOver, hpid]
    rfl
  | _ => rfl

theorem parseOver_refused (h : Refused words e) : a.parseOver words = .error e := by
  cases h with
  | missingValue h =>
    simp only [withValue, List.mem_cons, List.not_mem_nil, or_false] at h
    rcases h with rfl | rfl | rfl | rfl
    all_goals rfl
  | invalidPid h rest => rw [parseOver, h]
  | @unknown word h h' rest =>
    simp only [withoutValue, List.mem_cons, List.not_mem_nil, or_false, not_or] at h'
    have hvalue (flag : String) (hflag : flag ∈ withValue) : word ≠ flag := fun heq => h (heq ▸ hflag)
    rw [parseOver]
    · exact if_neg (mt List.contains_iff_mem.1 h)
    · exact h'.1
    · exact h'.2.1
    · exact h'.2.2.1
    · exact h'.2.2.2
    all_goals exact fun _ _ heq _ => hvalue _ (by decide) heq

theorem nil_or_flag_or_refused (words : List String) :
    words = [] ∨ (∃ (f : Flag) (ws rest : List String), f.Spells ws ∧ words = ws ++ rest) ∨ ∃ e, Refused words e := by
  fun_cases parseOver {} words with
  | case1 => exact .inl rfl
  | case2 rest => exact .inr (.inl ⟨_, _, rest, .noRouter, rfl⟩)
  | case3 rest => exact .inr (.inl ⟨_, _, rest, .writeConfig, rfl⟩)
  | case4 rest => exact .inr (.inl ⟨_, _, rest, .short, rfl⟩)
  | case5 rest => exact .inr (.inl ⟨_, _, rest, .help, rfl⟩)
  | case6 value rest => exact .inr (.inl ⟨_, _, rest, .sink value, rfl⟩)
  | case7 value rest => exact .inr (.inl ⟨_, _, rest, .source value, rfl⟩)
  | case8 value rest => exact .inr (.inl ⟨_, _, rest, .config value, rfl⟩)
  | case9 value rest cause h => exact .inr (.inr ⟨_, .invalidPid h rest⟩)
  | case10 value rest pid h => exact .inr (.inl ⟨_, _, rest, .gainPid h, rfl⟩)
  | case11 word rest _ _ _ _ hsink hsource hconfig hpid h =>
    have hmem : word ∈ withValue := List.contains_iff_mem.1 h
    cases rest with
    | nil => exact .inr (.inr ⟨_, .missingValue hmem⟩)
    | cons value rest =>
      simp only [withValue, List.mem_cons, List.not_mem_nil, or_false] at hmem
      rcases hmem with rfl | rfl | rfl | rfl
      · exact (hsink _ _ rfl rfl).elim
      · exact (hsource _ _ rfl rfl).elim
      · exact (hconfig _ _ rfl rfl).elim
      · exact (hpid _ _ rfl rfl).elim
  | case12 word rest hrouter hwrite hshort hhelp _ _ _ _ h =>
    refine .inr (.inr ⟨_, .unknown (mt List.contains_iff_mem.2 h) (fun hmem => ?_) rest⟩)
    simp only [withoutValue, List.mem_cons, List.not_mem_nil, or_false] at hmem
    rcases hmem with rfl | rfl | rfl | rfl
    · exact hrouter rfl
    · exact hwrite rfl
    · exact hshort rfl
    · exact hhelp rfl

theorem parseOver_line (h : Line fs ws) : a.parseOver (ws ++ rest) = (a.setAll fs).parseOver rest := by
  induction h generalizing a with
  | nil => rfl
  | cons hf _ ih => rw [List.append_assoc, parseOver_flag hf, ih, setAll, setAll, List.foldl_cons]

/-- All words are a line as far as they can be read, and then nothing, or no flag. -/
theorem exists_line (words : List String) :
    ∃ fs ws rest, Line fs ws ∧ words = ws ++ rest ∧ (rest = [] ∨ ∃ e, Refused rest e) := by
  induction hn : words.length using Nat.strongRecOn generalizing words with
  | _ n ih =>
    rcases nil_or_flag_or_refused words with rfl | ⟨f, ws, rest, hf, rfl⟩ | hrefused
    · exact ⟨[], [], [], .nil, rfl, .inl rfl⟩
    · have hshorter : rest.length < n := by
        have hpos : 0 < ws.length := by cases hf <;> exact Nat.zero_lt_succ _
        rw [← hn, List.length_append]
        omega
      obtain ⟨fs, more, last, hline, rfl, hlast⟩ := ih _ hshorter rest rfl
      exact ⟨f :: fs, ws ++ more, last, .cons hf hline, (List.append_assoc ..).symm, hlast⟩
    · exact ⟨[], [], words, .nil, rfl, .inr hrefused⟩

theorem exists_line_of_parseOver (h : a.parseOver words = .ok b) : ∃ fs, Line fs words ∧ b = a.setAll fs := by
  obtain ⟨fs, ws, rest, hline, rfl, rfl | ⟨e, hrefused⟩⟩ := exists_line words
  · rw [parseOver_line hline, parseOver] at h
    cases h
    exact ⟨fs, (List.append_nil ws).symm ▸ hline, rfl⟩
  · rw [parseOver_line hline, parseOver_refused hrefused] at h
    cases h

end Reading

/-! ## Saying more -/

/-- What both say, where the second counts if both say something. -/
def overriddenBy (a b : Arguments) : Arguments where
  sink := b.sink <|> a.sink
  source := b.source <|> a.source
  config := b.config <|> a.config
  gainPid := b.gainPid <|> a.gainPid
  noRouter := a.noRouter || b.noRouter
  writeConfig := a.writeConfig || b.writeConfig
  help := a.help || b.help

section Overriding
variable (a b : Arguments)

theorem overriddenBy_nothing : a.overriddenBy {} = a := by
  cases a
  simp [overriddenBy]

theorem set_overriddenBy (f : Flag) : f.set (a.overriddenBy b) = a.overriddenBy (f.set b) := by
  cases f <;> simp [Flag.set, overriddenBy]

theorem setAll_overriddenBy (fs : List Flag) : (a.overriddenBy b).setAll fs = a.overriddenBy (b.setAll fs) := by
  induction fs generalizing b with
  | nil => rfl
  | cons f fs ih => exact (congrArg (setAll · fs) (set_overriddenBy a b f)).trans (ih (f.set b))

/-- Words say the same whatever was said before, or are refused for the same reason. -/
theorem parseOver_eq (words : List String) : a.parseOver words = (parse words).map a.overriddenBy := by
  obtain ⟨fs, ws, rest, hline, rfl, hrest⟩ := exists_line words
  rw [parse, parseOver_line hline, parseOver_line hline]
  have hset : a.setAll fs = a.overriddenBy (setAll {} fs) := by
    rw [← setAll_overriddenBy, overriddenBy_nothing]
  rcases hrest with rfl | ⟨e, hrefused⟩
  · exact congrArg Except.ok hset
  · rw [parseOver_refused hrefused, parseOver_refused hrefused, Except.map]

theorem parse_append {xs : List String} {a : Arguments} (h : parse xs = .ok a) (ys : List String) :
    parse (xs ++ ys) = (parse ys).map a.overriddenBy := by
  obtain ⟨fs, hline, rfl⟩ := exists_line_of_parseOver h
  rw [parse, parseOver_line hline, parseOver_eq]

theorem apply_overriddenBy (s : Settings) : (a.overriddenBy b).apply s = b.apply (a.apply s) := by
  cases b with
  | mk sink source config gainPid noRouter writeConfig help =>
    cases sink <;> cases source <;> cases gainPid <;> rfl

end Overriding

/-! ## Writing arguments as flags -/

/-- Arguments as flags. -/
def flags (a : Arguments) : List Flag :=
  (a.sink.map .sink).toList ++ (a.source.map .source).toList ++ (a.config.map .config).toList ++
    (a.gainPid.map .gainPid).toList ++ (if a.noRouter then [.noRouter] else []) ++
    (if a.writeConfig then [.writeConfig] else []) ++ if a.help then [.help] else []

/-- Arguments as the words of a command line. -/
def render (a : Arguments) : List String := a.flags.flatMap Flag.words

theorem spells_words (f : Flag) : f.Spells f.words := by
  cases f with
  | gainPid pid => exact .gainPid (parsePid_toString pid)
  | _ => constructor

theorem line_flatMap (fs : List Flag) : Line fs (fs.flatMap Flag.words) := by
  induction fs with
  | nil => exact .nil
  | cons f fs ih => exact .cons (spells_words f) ih

theorem setAll_flags (a : Arguments) : setAll {} a.flags = a := by
  cases a with
  | mk sink source config gainPid noRouter writeConfig help =>
    cases sink <;> cases source <;> cases config <;> cases gainPid <;> cases noRouter <;> cases writeConfig <;>
      cases help <;> rfl

theorem parse_render (a : Arguments) : parse a.render = .ok a := by
  have hread : parse (a.render ++ []) = .ok (setAll {} a.flags) := parseOver_line (line_flatMap a.flags)
  rw [List.append_nil, setAll_flags] at hread
  exact hread

/-! ## The main statement -/

/-- Behind words that can be read, other words are refused if and only if they are refused alone, for the same reason.
Otherwise what they say is laid over what the first ones say, and the effect on settings is that of both, one after the
other. Whatever can be said can be written as flags. Arguments change three settings and no others. -/
theorem later_words_are_laid_over_earlier_ones {xs : List String} {a : Arguments} (h : parse xs = .ok a)
    (ys : List String) :
    (∀ e, parse (xs ++ ys) = .error e ↔ parse ys = .error e) ∧
    (∀ b, parse ys = .ok b → parse (xs ++ ys) = .ok (a.overriddenBy b) ∧
      ∀ s, (a.overriddenBy b).apply s = b.apply (a.apply s)) ∧
    (∀ c : Arguments, parse c.render = .ok c) ∧
    ∀ (c : Arguments) (s : Settings), c.apply s = { s with
      sinkDevice := (c.apply s).sinkDevice
      route := { s.route with sourceDevice := (c.apply s).route.sourceDevice }
      gainPid := (c.apply s).gainPid } := by
  have happend := parse_append h ys
  refine ⟨?_, ?_, parse_render, fun _ _ => rfl⟩
  · intro e
    rw [happend]
    cases parse ys with
    | error cause => exact Iff.rfl
    | ok b => exact iff_of_false (fun h => by cases h) (fun h => by cases h)
  · intro b hb
    rw [happend, hb]
    exact ⟨rfl, apply_overriddenBy a b⟩

/-- The word behind a flag is its value even if it looks like another flag, so that a name that is given behind it
replaces it, and the switches of both count. -/
theorem help_as_a_name_is_replaced :
    parse ["--sink", "--help", "--no-router"] = .ok { sink := some "--help", noRouter := true } ∧
    parse ["--gain-pid", "+7", "--sink", "Speakers"] = .ok { sink := some "Speakers", gainPid := some 7 } ∧
    parse (["--sink", "--help", "--no-router"] ++ ["--gain-pid", "+7", "--sink", "Speakers"]) =
      .ok { sink := some "Speakers", gainPid := some 7, noRouter := true } := by
  have hfirst : parse ["--sink", "--help", "--no-router"] = .ok { sink := some "--help", noRouter := true } := rfl
  have hsecond : parse ["--gain-pid", "+7", "--sink", "Speakers"] =
      .ok { sink := some "Speakers", gainPid := some 7 } := by with_unfolding_all rfl
  exact ⟨hfirst, hsecond, ((later_words_are_laid_over_earlier_ones hfirst _).2.1 _ hsecond).1⟩

end Arguments
end Patchbay.Daemon
