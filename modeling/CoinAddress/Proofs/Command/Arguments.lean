import CoinAddress.Command.Arguments
import Mathlib.Data.List.TakeWhile

/-!
# Layouts of command lines

Arguments are cut into tokens from the front, and most of them make the same tokens whatever comes
behind (`Tokenizes`). So the options that are shared by all commands ask for the same in front of
the command, between it and its operands, and behind them (`Placed`).

`EncodeArguments` and `DecodeArguments` are the lines that write and read a private key, with a file
of networks or without, and `Invocation.parse?` finds in each what it asks for.
-/

namespace CoinAddress.Command

/-! ## Shapes -/

section

variable {arg name : String}

theorem Shape.of_eq_plain (h : arg.toList.head? ≠ some '-') : Shape.of arg = .plain := by
  rw [Shape.of]
  split
  · next hdash => exact absurd (by rw [hdash]; rfl) h
  · next hdash => exact absurd (by rw [hdash]; rfl) h
  · next hdash => exact absurd (by rw [hdash]; rfl) h
  · rfl

theorem Shape.of_eq_plain_of_not_mem (h : '-' ∉ arg.toList) : Shape.of arg = .plain :=
  of_eq_plain fun hdash => h (List.mem_of_mem_head? hdash)

theorem splitValue_append {cs : List Char} (h : '=' ∉ cs) (value : String) :
    splitValue (cs ++ '=' :: value.toList) = (cs, some value) := by
  have hcs : ∀ c ∈ cs, decide (c ≠ '=') = true := fun c hc =>
    decide_eq_true fun heq => h (heq ▸ hc)
  have hdrop : (cs ++ '=' :: value.toList).dropWhile (fun c => decide (c ≠ '=')) =
      '=' :: value.toList := by
    rw [List.dropWhile_append_of_pos hcs]
    rfl
  have htake : (cs ++ '=' :: value.toList).takeWhile (fun c => decide (c ≠ '=')) = cs := by
    rw [List.takeWhile_append_of_pos hcs]
    simp
  rw [splitValue, hdrop, htake]
  simp only [String.ofList_toList]

/-- An option with its value behind an equals sign. -/
theorem Shape.of_setting (name value : String) (h : '=' ∉ name.toList) :
    Shape.of ("--" ++ name ++ "=" ++ value) = .long name.toList (some value) := by
  have hchars : ("--" ++ name ++ "=" ++ value).toList =
      '-' :: '-' :: (name.toList ++ '=' :: value.toList) := by simp
  obtain ⟨c, cs, hcs⟩ := List.exists_cons_of_ne_nil
    (List.append_ne_nil_of_right_ne_nil name.toList (List.cons_ne_nil '=' value.toList))
  have hsplit := splitValue_append h value
  rw [Shape.of, hchars]
  rw [hcs] at hsplit ⊢
  show Shape.long (splitValue (c :: cs)).1 (splitValue (c :: cs)).2 = _
  rw [hsplit]

end

/-! ## Tokens -/

/-- Arguments that make the same tokens whatever comes behind them. -/
def Tokenizes (args : List String) (ts : List Token) : Prop :=
  ∀ rest, tokens? (args ++ rest) = (tokens? rest).map (ts ++ ·)

namespace Tokenizes

variable {args args' : List String} {ts ts' : List Token} {arg next : String}

theorem nil : Tokenizes [] [] := fun rest => by simp

theorem append (h : Tokenizes args ts) (h' : Tokenizes args' ts') :
    Tokenizes (args ++ args') (ts ++ ts') := by
  intro rest
  rw [List.append_assoc, h, h', Option.map_map]
  exact congrArg (Option.map · _) (funext fun _ => (List.append_assoc _ _ _).symm)

theorem tokens?_eq (h : Tokenizes args ts) : tokens? args = some ts := by
  have := h []
  rwa [List.append_nil, tokens?, Option.map_some, List.append_nil] at this

theorem operand (h : Shape.of arg = .plain) : Tokenizes [arg] [.operand arg] := by
  intro rest
  rw [List.singleton_append, tokens?]
  simp only [h]
  rfl

theorem letters {cs : List Char} (h : Shape.of arg = .short cs) :
    Tokenizes [arg] [.letters cs] := by
  intro rest
  rw [List.singleton_append, tokens?]
  simp only [h]
  rfl

/-- An option with its value behind an equals sign. -/
theorem joined {name : List Char} {option : Setting} {value : String}
    (h : Shape.of arg = .long name (some value)) (hname : Setting.ofName? name = some option) :
    Tokenizes [arg] [.setting option value] := by
  intro rest
  rw [List.singleton_append, tokens?]
  simp only [h, hname]
  rfl

/-- An option with its value in the next argument. -/
theorem separate {name : List Char} {option : Setting} {value : String}
    (h : Shape.of arg = .long name none) (hname : Setting.ofName? name = some option)
    (hvalue : value? next = some value) : Tokenizes [arg, next] [.setting option value] := by
  intro rest
  rw [List.cons_append, List.singleton_append, tokens?.eq_2]
  simp only [h, hname, hvalue]
  cases tokens? rest <;> rfl

end Tokenizes

/-! ## Options -/

/-- The arguments that name a file of networks, if there is one. A file has a name. -/
inductive FileArguments : Option String → List String → Prop
  | absent : FileArguments none []
  | joined {path : String} (h : path ≠ "") : FileArguments (some path) ["--networks=" ++ path]
  | separate {path : String} (h : path ≠ "") (hvalue : value? path = some path) :
      FileArguments (some path) ["--networks", path]

/-- The tokens that name a file and a default network. -/
def optionTokens (path network : Option String) : List Token :=
  (path.map (Token.setting .networksFile)).toList ++ (network.map (Token.setting .network)).toList

section

variable {path network : Option String} {args : List String}

theorem FileArguments.ne_some_empty (h : FileArguments path args) : path ≠ some "" := by
  cases h with
  | absent => exact nofun
  | joined h | separate h => exact fun heq => h (Option.some.inj heq)

theorem FileArguments.tokenizes (h : FileArguments path args) :
    Tokenizes args (optionTokens path none) := by
  cases h with
  | absent => exact .nil
  | joined h => exact .joined (Shape.of_setting "networks" _ (by decide)) rfl
  | separate h hvalue =>
    have hshape : Shape.of "--networks" = .long "networks".toList none := rfl
    exact .separate hshape rfl hvalue

/-- The arguments that name a file and the default network. -/
theorem FileArguments.tokenizes_network (h : FileArguments path args) (name : String) :
    Tokenizes (args ++ ["--network=" ++ name]) (optionTokens path (some name)) := by
  have hname : Tokenizes ["--network=" ++ name] [.setting .network name] :=
    .joined (Shape.of_setting "network" name (by decide)) rfl
  have htokens := h.tokenizes.append hname
  rwa [optionTokens, Option.map_none, Option.toList_none, List.append_nil] at htokens

theorem foldlM_optionTokens (command : Option Name) {o : Options} (hpath : path ≠ some "")
    (network : Option String) (hfile : o.networksFile = none) (hnetwork : o.network = none) :
    (optionTokens path network).foldlM (Options.take command) o =
      some { o with networksFile := path, network := network } := by
  obtain ⟨file, name, json, uncompressed⟩ := o
  obtain rfl : file = none := hfile
  obtain rfl : name = none := hnetwork
  cases path with
  | none => cases network <;> rfl
  | some path =>
    have hne : path ≠ "" := fun heq => hpath (congrArg some heq)
    cases network <;> simp [optionTokens, Options.take, Options.set, hne]

/-- The options in front of a command hold for it. -/
theorem splitCommand?_append {o o' : Options} {text : String} {ts : List Token}
    (h : (optionTokens path network).foldlM (Options.take none) o = some o') :
    splitCommand? o (optionTokens path network ++ .operand text :: ts) =
      (Name.ofText? text).map fun name => (o', name, ts) := by
  have hsettings : ∀ t ∈ optionTokens path network, ∃ option value, t = .setting option value := by
    cases path <;> cases network <;> simp [optionTokens]
  generalize optionTokens path network = os at h hsettings
  induction os generalizing o with
  | nil =>
    cases h
    rfl
  | cons t os ih =>
    obtain ⟨⟨option, value, rfl⟩, hos⟩ := List.forall_mem_cons.1 hsettings
    obtain ⟨o₁, ho₁, h⟩ := Option.bind_eq_some_iff.1 h
    rw [List.cons_append, splitCommand?, ho₁]
    · exact ih h hos
    · exact nofun
    · exact nofun

end

/-! ## Lines -/

/-- A command and its operands, with options that stand in front of the command, between it and the
operands, or behind them. -/
inductive Placed (options : List String) (command : String) (operands : List String) :
    List String → Prop
  | front : Placed options command operands (options ++ command :: operands)
  | between : Placed options command operands (command :: (options ++ operands))
  | behind : Placed options command operands (command :: (operands ++ options))

section

variable {path network : Option String} {options operands args : List String} {rs : List Token}

theorem parse?_of_tokens {ts bs : List Token} {front back : Options} {name : Name} {task : Task}
    (htokens : tokens? args = some ts) (hsplit : splitCommand? .initial ts = some (front, name, bs))
    (hback : bs.foldlM (Options.take (some name)) .initial = some back)
    (htask : Task.of? name back.uncompressed (bs.flatMap Token.operands) = some task) :
    Invocation.parse? args = some ⟨back.networksFile <|> front.networksFile,
      (back.network <|> front.network).getD defaultNetwork, back.json || front.json, task⟩ := by
  simp only [Invocation.parse?, htokens, hsplit, hback, htask, Option.bind_eq_bind,
    Option.bind_some, Option.pure_def]

/-- Where the command comes first, everything is behind it. -/
theorem parse?_cons (back : Options) {command : String} {ts : List Token} {name : Name}
    {task : Task} (hcommand : Shape.of command = .plain) (hname : Name.ofText? command = some name)
    (htokens : Tokenizes args ts)
    (hback : ts.foldlM (Options.take (some name)) .initial = some back)
    (htask : Task.of? name back.uncompressed (ts.flatMap Token.operands) = some task) :
    Invocation.parse? (command :: args) =
      some ⟨back.networksFile, back.network.getD defaultNetwork, back.json, task⟩ := by
  have hall := ((Tokenizes.operand hcommand).append htokens).tokens?_eq
  have hsplit : splitCommand? .initial (.operand command :: ts) = some (.initial, name, ts) := by
    rw [splitCommand?, hname]
    rfl
  obtain ⟨file, network, json, uncompressed⟩ := back
  refine (parse?_of_tokens hall hsplit hback htask).trans ?_
  cases file <;> cases network <;> cases json <;> rfl

/-- **Options ask for the same wherever they stand.** -/
theorem Placed.parse?_eq {command : String} {name : Name} {task : Task}
    (h : Placed options command operands args) (uncompressed : Bool)
    (hoptions : Tokenizes options (optionTokens path network)) (hpath : path ≠ some "")
    (hcommand : Shape.of command = .plain) (hname : Name.ofText? command = some name)
    (hoperands : Tokenizes operands rs)
    (hflag : ∀ o : Options, o.uncompressed = false →
      rs.foldlM (Options.take (some name)) o = some { o with uncompressed := uncompressed })
    (htask : Task.of? name uncompressed (rs.flatMap Token.operands) = some task) :
    Invocation.parse? args = some ⟨path, network.getD defaultNetwork, false, task⟩ := by
  have hnone : (optionTokens path network).flatMap Token.operands = [] := by
    cases path <;> cases network <;> rfl
  cases h with
  | front =>
    have htokens := (hoptions.append ((Tokenizes.operand hcommand).append hoperands)).tokens?_eq
    have hsplit : splitCommand? .initial (optionTokens path network ++ .operand command :: rs) =
        some (⟨path, network, false, false⟩, name, rs) := by
      rw [splitCommand?_append (foldlM_optionTokens none hpath network rfl rfl), hname]
      rfl
    exact parse?_of_tokens htokens hsplit (hflag .initial rfl) htask
  | between =>
    refine parse?_cons ⟨path, network, false, uncompressed⟩ hcommand hname
      (hoptions.append hoperands) ?_ ?_
    · rw [List.foldlM_append, foldlM_optionTokens (some name) hpath network rfl rfl]
      exact hflag _ rfl
    · rwa [List.flatMap_append, hnone, List.nil_append]
  | behind =>
    refine parse?_cons ⟨path, network, false, uncompressed⟩ hcommand hname
      (hoperands.append hoptions) ?_ ?_
    · rw [List.foldlM_append, hflag .initial rfl]
      exact foldlM_optionTokens (some name) hpath network rfl rfl
    · rwa [List.flatMap_append, hnone, List.append_nil]

end

/-! ## Keys -/

/-- A key, with the flag for uncompressed public keys or without. -/
inductive KeyOperands (key : String) : Bool → List String → Prop
  | alone : KeyOperands key false [key]
  | flagBehind : KeyOperands key true [key, "-u"]
  | flagInFront : KeyOperands key true ["-u", key]

/-- The lines that write a private key for a network. -/
def EncodeArguments (path : Option String) (network key : String) (uncompressed : Bool)
    (args : List String) : Prop :=
  ∃ file operands, FileArguments path file ∧ KeyOperands key uncompressed operands ∧
    Placed (file ++ ["--network=" ++ network]) "encode-wif" operands args

/-- The lines that read a private key. -/
def DecodeArguments (path : Option String) (wif : String) (args : List String) : Prop :=
  ∃ file, FileArguments path file ∧ Placed file "decode-wif" [wif] args

section

variable {path : Option String} {network text : String} {uncompressed : Bool} {args : List String}

theorem EncodeArguments.parse?_eq (h : EncodeArguments path network text uncompressed args)
    (htext : Shape.of text = .plain) : Invocation.parse? args =
      some ⟨path, network, false, .encodeWif text uncompressed⟩ := by
  obtain ⟨file, operands, hfile, hoperands, hplaced⟩ := h
  have hflag : Tokenizes ["-u"] [.letters ['u']] :=
    .letters (show Shape.of "-u" = .short ['u'] from rfl)
  have hkey := Tokenizes.operand htext
  have hoptions := hfile.tokenizes_network network
  have hraise : ∀ o : Options, o.uncompressed = false →
      o.take (some .encodeWif) (.letters ['u']) = some { o with uncompressed := true } := by
    intro o ho
    simp [Options.take, Options.raiseLetter, Options.raiseUncompressed, ho]
  cases hoperands with
  | alone =>
    refine hplaced.parse?_eq false hoptions hfile.ne_some_empty rfl rfl hkey (fun o ho => ?_) rfl
    rw [← ho]
    rfl
  | flagBehind =>
    refine hplaced.parse?_eq true hoptions hfile.ne_some_empty rfl rfl (hkey.append hflag)
      (fun o ho => ?_) rfl
    simp [Options.take.eq_4, hraise o ho]
  | flagInFront =>
    refine hplaced.parse?_eq true hoptions hfile.ne_some_empty rfl rfl (hflag.append hkey)
      (fun o ho => ?_) rfl
    simp [Options.take.eq_4, hraise o ho]

theorem DecodeArguments.parse?_eq (h : DecodeArguments path text args)
    (htext : Shape.of text = .plain) : Invocation.parse? args =
      some ⟨path, defaultNetwork, false, .decodeWif text⟩ := by
  obtain ⟨file, hfile, hplaced⟩ := h
  refine hplaced.parse?_eq false hfile.tokenizes hfile.ne_some_empty rfl rfl
    (Tokenizes.operand htext) (fun o ho => ?_) rfl
  rw [← ho]
  rfl

end

end CoinAddress.Command
