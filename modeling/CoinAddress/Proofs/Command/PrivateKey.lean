import CoinAddress.Command.Run
import CoinAddress.Proofs.Command.Arguments
import CoinAddress.Proofs.Key.Wif
import CoinAddress.Proofs.Network.Config
import CoinAddress.Proofs.Network.Growth
import CoinAddress.Proofs.Text.Blank

/-!
# Writing a private key and reading it back from the command line

What the program starts with is the registry of the predefined networks and, behind them, those of a
file (`startRegistry_extends`). Every name that is resolved is that of a registered network, so the
version byte of a key that was written for it is that of a registered network, the first of which is
named when the key is read (`decodeWif_of_encodeWif`).

The word that stands for the name of a network that is not known is no reserved name, so a file may
give it to a network (`decodeWif_of_encodeWif_unknown`).
-/

namespace CoinAddress

/-! ## Networks -/

theorem Network.mem_predefined_of_ofAlias {name : String} {n : Network}
    (h : ofAlias name = .ok n) : n ∈ predefined := by
  dsimp only [ofAlias] at h
  split_ifs at h <;> cases h <;> simp [predefined]

namespace Registry

variable {r : Registry} {name : String} {n : Network}

/-- What a name is resolved to is registered, if the predefined networks are. -/
theorem Extends.mem_of_resolve (hr : r.Extends predefined) (h : r.resolve name = .ok n) :
    n ∈ r.networks := by
  rw [resolve] at h
  split at h
  · next hfound =>
    cases h
    exact List.mem_of_find?_eq_some hfound
  · exact hr.networks.subset (Network.mem_predefined_of_ofAlias h)

/-- A version byte of a registered network is found, with the first network that has it. -/
theorem exists_withPrivateKeyId? (hn : n ∈ r.networks) : ∃ m before behind,
    r.withPrivateKeyId? n.privateKeyId = some m ∧ r.networks = before ++ m :: behind ∧
      m.privateKeyId = n.privateKeyId ∧ ∀ k ∈ before, k.privateKeyId ≠ n.privateKeyId := by
  have hsome : (r.withPrivateKeyId? n.privateKeyId).isSome = true :=
    List.find?_isSome.2 ⟨n, hn, beq_self_eq_true _⟩
  obtain ⟨m, hm⟩ := Option.isSome_iff_exists.1 hsome
  obtain ⟨hid, before, behind, hr, hbefore⟩ := List.find?_eq_some_iff_append.1 hm
  exact ⟨m, before, behind, hm, hr, beq_iff_eq.1 hid, by simpa using hbefore⟩

end Registry

namespace Command

variable {file : String → Option Bytes} {path : Option String} {r : Registry}

/-! ## Starting -/

/-- The networks of a file are registered behind the predefined ones, or the program does not start. -/
theorem startRegistry_of_ofFile {p : String} {ns : List Network}
    (hfile : Config.ofFile (file p) = .ok ns) :
    startRegistry file (some p) = (Registry.predefined.registerAll ns).2.map fun _ =>
      (Registry.predefined.registerAll ns).1 := by
  rw [startRegistry, loadNetworks, hfile]
  simp only [Shared.run_registerAll, Shared.initial]
  cases (Registry.predefined.registerAll ns).2 <;> rfl

theorem networks_of_startRegistry (h : startRegistry file path = .ok r) :
    path = none ∧ r.networks = Network.predefined ∨ ∃ p ns, path = some p ∧
      Config.ofFile (file p) = .ok ns ∧ r.networks = Network.predefined ++ ns := by
  cases path with
  | none =>
    cases h
    exact Or.inl ⟨rfl, rfl⟩
  | some p =>
    cases hfile : Config.ofFile (file p) with
    | error e =>
      rw [startRegistry, loadNetworks, hfile] at h
      cases h
    | ok ns =>
      rw [startRegistry_of_ofFile hfile] at h
      obtain ⟨_, hok, rfl⟩ := map_eq_ok.1 h
      exact Or.inr ⟨p, ns, rfl, hfile, Registry.networks_registerAll hok⟩

theorem startRegistry_extends (h : startRegistry file path = .ok r) :
    r.Extends Registry.predefined := by
  refine .of_networks ?_
  obtain ⟨-, hr⟩ | ⟨p, ns, -, -, hr⟩ := networks_of_startRegistry h
  · exact hr ▸ List.prefix_refl _
  · exact hr ▸ List.prefix_append _ _

/-- A network that is none of the predefined ones is one of the file. -/
theorem exists_ofFile_of_mem (h : startRegistry file path = .ok r) {n : Network}
    (hn : n ∈ r.networks) (hpredefined : n ∉ Network.predefined) :
    ∃ p ns, path = some p ∧ Config.ofFile (file p) = .ok ns ∧ n ∈ ns := by
  obtain ⟨-, hr⟩ | ⟨p, ns, hpath, hfile, hr⟩ := networks_of_startRegistry h
  · exact absurd (hr ▸ hn) hpredefined
  · exact ⟨p, ns, hpath, hfile, (List.mem_append.1 (hr ▸ hn)).resolve_left hpredefined⟩

theorem resolve_defaultNetwork (h : r.Extends Registry.predefined) :
    r.resolve defaultNetwork = .ok .mainnet := by
  have hpredefined : Registry.predefined.named? defaultNetwork = some .mainnet := by decide +kernel
  rw [Registry.resolve, h.named? hpredefined]

/-! ## Running -/

theorem run_of_parse {args : List String} {i : Invocation} {n : Network} {lines : List String}
    (hparse : Invocation.parse? args = some i) (hstart : startRegistry file i.networksFile = .ok r)
    (hname : r.resolve i.network = .ok n) (h : report r n i.json i.task = .ok lines) :
    run file args = .printed (printLines lines) := by
  have hperform : perform file i = .ok lines := by
    rw [perform, bind_of_ok hstart, bind_of_ok hname, h]
  simp only [run, hparse, hperform]

/-! ## Texts of keys -/

section

variable {before hex behind : String} {key : FixedBytes 32}
  (hhex : Text.lowerAscii hex = Text.Hex.encode key.toList)
  (hbefore : ∀ c ∈ before.toList, Text.isBlank c = true)
  (hbehind : ∀ c ∈ behind.toList, Text.isBlank c = true)
include hhex hbefore hbehind

/-- The digits of a key between white space are no option. -/
theorem shape_of_hex : Shape.of (before ++ hex ++ behind) = .plain := by
  have hblank : Text.isBlank '-' = false := by decide
  have hdigit : '-' ∉ Text.Hex.alphabet := by decide
  refine Shape.of_eq_plain_of_not_mem fun hmem => ?_
  rw [String.toList_append, String.toList_append, List.mem_append, List.mem_append] at hmem
  rcases hmem with (hmem | hmem) | hmem
  · exact absurd (hbefore _ hmem) (by simp [hblank])
  · have hdecode := Text.Hex.decode_eq_ok_iff.2 hhex.symm
    exact hdigit (Text.Hex.mem_alphabet_of_decode hdecode
      ((Text.mem_toList_lowerAscii (by decide)).2 hmem))
  · exact absurd (hbehind _ hmem) (by simp [hblank])

theorem report_encodeWif (r : Registry) (n : Network) (uncompressed : Bool) :
    report r n false (.encodeWif (before ++ hex ++ behind) uncompressed) =
      .ok [Wif.encode ⟨key, !uncompressed, n.privateKeyId⟩] := by
  have hdecode := Text.Hex.decode_eq_ok_iff.2 hhex.symm
  have htrim := Text.trim_of_blank hbefore hbehind (Text.Hex.isGraphic_of_decode hdecode)
  have hwif : Wif.ofKey key.toList n (!uncompressed) =
      .ok ⟨key, !uncompressed, n.privateKeyId⟩ := by
    rw [Wif.ofKey, FixedBytes.ofList?_toList]
  rw [report, htrim, hdecode]
  exact bind_of_ok hwif _

end

theorem isGraphic_encode (w : Wif) : ∀ c ∈ w.encode.toList, Text.isGraphic c = true :=
  Base58.isGraphic_encode _

/-- The text of a key is no option. -/
theorem shape_of_wif (w : Wif) : Shape.of w.encode = .plain := by
  have hdigit : '-' ∉ Base58.alphabet := by decide
  exact Shape.of_eq_plain_of_not_mem fun hmem =>
    hdigit (Base58.exists_decode_iff.1 ⟨_, Base58.decode_encode _⟩ _ hmem)

theorem report_decodeWif (r : Registry) (n : Network) (w : Wif) :
    report r n false (.decodeWif w.encode) = .ok (keyReport (KeySummary.of w r)) := by
  rw [report, Text.trim_of_isGraphic (isGraphic_encode w), Wif.decode_eq_ok_iff.2 rfl]
  rfl

/-! ## What is printed -/

theorem printLines_singleton (line : String) : printLines [line] = line ++ "\n" := by
  simp [printLines, String.join]

/-- The public key of a private key, as it is printed. -/
def publicKeyText (w : Wif) : String :=
  match w.publicKey with
  | .ok bs => Text.Hex.encode bs
  | .error _ => "invalid secp256k1 scalar"

theorem publicKey_getD (w : Wif) (r : Registry) :
    (KeySummary.of w r).publicKey.getD "invalid secp256k1 scalar" = publicKeyText w := by
  rw [KeySummary.of, publicKeyText]
  cases w.publicKey <;> rfl

/-- The report on a private key of a registered network, line by line. -/
theorem printLines_keyReport {w : Wif} {m : Network} (h : r.withPrivateKeyId? w.netId = some m) :
    printLines (keyReport (KeySummary.of w r)) =
      "Decoded private key:\n" ++
      ("Network: " ++ m.name ++ "\n") ++
      ("Version byte: 0x" ++ Text.Hex.encode [w.netId] ++ "\n") ++
      ("Compressed: " ++ (if w.compressed then "true" else "false") ++ "\n") ++
      ("Public key: " ++ publicKeyText w ++ "\n") := by
  have hnetwork : networkLine (KeySummary.of w r).network = "Network: " ++ m.name := by
    rw [networkLine, KeySummary.of, h]
    rfl
  have hbyte : "Version byte: " ++ Text.hexByte (KeySummary.of w r).versionByte =
      "Version byte: 0x" ++ Text.Hex.encode [w.netId] := by
    rw [Text.Hex.hexByte_eq, ← String.append_assoc]
    rfl
  have hcompressed : (KeySummary.of w r).compressed = w.compressed := rfl
  have hfirst : "Decoded private key:" ++ "\n" = "Decoded private key:\n" := rfl
  rw [keyReport, hnetwork, hbyte, hcompressed, publicKey_getD, printLines]
  simp [String.join, hfirst]

/-! ## Both runs -/

/-- **A private key that is written for a network is read back.** Whatever networks a file adds, and
whatever name the network goes by, the text is printed on one line, and from it are printed the name
of the first registered network that has the version byte of the network, this byte, and whether the
public key is compressed. The name is `unknown` only if the file gives it to that network. -/
theorem decodeWif_of_encodeWif {file : String → Option Bytes} {path : Option String} {r : Registry}
    {name : String} {n : Network} (key : FixedBytes 32) {before hex behind : String}
    (uncompressed : Bool) (hstart : startRegistry file path = .ok r)
    (hname : r.resolve name = .ok n) (hhex : Text.lowerAscii hex = Text.Hex.encode key.toList)
    (hbefore : ∀ c ∈ before.toList, Text.isBlank c = true)
    (hbehind : ∀ c ∈ behind.toList, Text.isBlank c = true) :
    ∃ (line : String) (m : Network) (front back : List Network),
      '\n' ∉ line.toList ∧
      (∀ args, EncodeArguments path name (before ++ hex ++ behind) uncompressed args →
        (run file args).exitCode = 0 ∧ (run file args).output = line ++ "\n") ∧
      (∀ args, DecodeArguments path line args →
        (run file args).exitCode = 0 ∧ (run file args).output =
          "Decoded private key:\n" ++
          ("Network: " ++ m.name ++ "\n") ++
          ("Version byte: 0x" ++ Text.Hex.encode [n.privateKeyId] ++ "\n") ++
          ("Compressed: " ++ (if uncompressed then "false" else "true") ++ "\n") ++
          ("Public key: " ++ publicKeyText ⟨key, !uncompressed, n.privateKeyId⟩ ++ "\n")) ∧
      r.networks = front ++ m :: back ∧ m.privateKeyId = n.privateKeyId ∧
      (∀ k ∈ front, k.privateKeyId ≠ n.privateKeyId) ∧
      (m.name = "unknown" → ∃ p ns, path = some p ∧ Config.ofFile (file p) = .ok ns ∧ m ∈ ns) := by
  have hextends := startRegistry_extends hstart
  obtain ⟨m, front, back, hfound, hr, hid, hfront⟩ :=
    Registry.exists_withPrivateKeyId? (hextends.mem_of_resolve hname)
  let w : Wif := ⟨key, !uncompressed, n.privateKeyId⟩
  refine ⟨w.encode, m, front, back, fun hmem => ?_, fun args hargs => ?_, fun args hargs => ?_, hr,
    hid, hfront, fun hunknown => ?_⟩
  · exact absurd (isGraphic_encode w _ hmem) (by decide)
  · have hparse := hargs.parse?_eq (shape_of_hex hhex hbefore hbehind)
    have hrun := run_of_parse hparse hstart hname
      (report_encodeWif hhex hbefore hbehind r n uncompressed)
    rw [hrun]
    exact ⟨rfl, printLines_singleton _⟩
  · have hparse := hargs.parse?_eq (shape_of_wif w)
    have hrun := run_of_parse hparse hstart (resolve_defaultNetwork hextends)
      (report_decodeWif r .mainnet w)
    rw [hrun]
    exact ⟨rfl, (printLines_keyReport hfound).trans (by cases uncompressed <;> rfl)⟩
  · have hpredefined : ∀ k ∈ Network.predefined, k.name ≠ "unknown" := by decide
    refine exists_ofFile_of_mem hstart ?_ fun hm => hpredefined m hm hunknown
    rw [hr]
    exact List.mem_append_right _ List.mem_cons_self

/-- A network of a file has the version byte of a predefined network, which is the one named, and the
number of the key is too large for a public key. -/
theorem decodeWif_of_encodeWif_shared_byte :
    let own : Network := ⟨"own", 7, 1, 2, 0xef, "own"⟩
    let file : String → Option Bytes := fun _ =>
      some (Text.utf8 (Config.toJson [own]).compact.toList)
    let hex := String.ofList (List.replicate 32 ['f', 'F']).flatten
    ∃ line : String,
      (run file ["--networks", "own.json", "--network=OWN", "encode-wif",
        "\u00a0" ++ hex ++ "\n", "-u"]).output = line ++ "\n" ∧
      (run file ["decode-wif", line, "--networks=own.json"]).output =
        "Decoded private key:\nNetwork: testnet3\nVersion byte: 0xef\nCompressed: false\n" ++
          "Public key: invalid secp256k1 scalar\n" := by
  intro own file hex
  have hfile : Config.ofFile (file "own.json") = .ok [own] :=
    Config.ofFile_of_writtenAs (by decide) .compact
  have hstart : startRegistry file (some "own.json") = .ok ⟨Network.predefined ++ [own]⟩ :=
    (startRegistry_of_ofFile hfile).trans (by decide +kernel)
  have hname : Registry.resolve ⟨Network.predefined ++ [own]⟩ "OWN" = .ok own := by decide +kernel
  have hhex : Text.lowerAscii hex = Text.Hex.encode (List.replicate 32 0xff) := by decide +kernel
  have hbefore : ∀ c ∈ "\u00a0".toList, Text.isBlank c = true := List.all_eq_true.1 (by decide)
  have hbehind : ∀ c ∈ "\n".toList, Text.isBlank c = true := List.all_eq_true.1 (by decide)
  obtain ⟨line, m, front, back, -, hencode, hdecode, hr, hm, hfront, -⟩ :=
    decodeWif_of_encodeWif ⟨_, rfl⟩ true hstart hname hhex hbefore hbehind
  have hpath : "own.json" ≠ "" := by decide
  -- The networks in front of the one that is named have other version bytes.
  have hfirst : m = Network.testnet3 := by
    rcases front with _ | ⟨k, _ | ⟨k', front⟩⟩
    · cases hr
      cases hm
    · cases hr
      rfl
    · have hsecond : Network.testnet3 = k' := (List.cons.inj (List.cons.inj hr).2).1
      exact absurd rfl (hfront Network.testnet3 (by simp [hsecond]))
  refine ⟨line, (hencode _ ⟨_, _, .separate hpath rfl, .flagBehind, .front⟩).2,
    (hdecode _ ⟨_, .joined hpath, .behind⟩).2.trans ?_⟩
  rw [hfirst]
  decide +kernel

/-- A network of a file has the name `unknown` and is the first that has its version byte, so a key
that is written for another network with this byte is read as one of a network called `unknown`. -/
theorem decodeWif_of_encodeWif_unknown :
    let unknown : Network := ⟨"unknown", 7, 1, 2, 0x55, "unk"⟩
    let other : Network := ⟨"other", 8, 1, 2, 0x55, "oth"⟩
    let file : String → Option Bytes := fun _ =>
      some (Text.utf8 (Config.toJson [unknown, other]).compact.toList)
    let hex := String.ofList (List.replicate 63 '0') ++ "1"
    let line := "DaHbbidTt4sgpz8J1SYufo3Q9w5Sxa3nqYx5ZcT3jg4VwdxbJYwc"
    startRegistry file (some "own.json") = .ok ⟨Network.predefined ++ [unknown, other]⟩ ∧
      Registry.resolve ⟨Network.predefined ++ [unknown, other]⟩ "other" = .ok other ∧
      (run file ["--networks", "own.json", "--network=other", "encode-wif", hex]).output =
        line ++ "\n" ∧
      (run file ["--networks", "own.json", "decode-wif", line]).output =
        "Decoded private key:\nNetwork: unknown\nVersion byte: 0x55\nCompressed: true\n" ++
          "Public key: 0279be667ef9dcbbac55a06295ce870b07029bfcdb2dce28d959f2815b16f81798\n" := by
  intro unknown other file hex line
  have hfile : Config.ofFile (file "own.json") = .ok [unknown, other] :=
    Config.ofFile_of_writtenAs (by decide) .compact
  have hstart : startRegistry file (some "own.json") =
      .ok ⟨Network.predefined ++ [unknown, other]⟩ :=
    (startRegistry_of_ofFile hfile).trans (by decide +kernel)
  have hother : Registry.resolve ⟨Network.predefined ++ [unknown, other]⟩ "other" = .ok other := by
    decide +kernel
  have hwritten : report ⟨Network.predefined ++ [unknown, other]⟩ other false
      (.encodeWif hex false) = .ok [line] := by
    decide +kernel
  have hread : report ⟨Network.predefined ++ [unknown, other]⟩ .mainnet false
      (.decodeWif line) = .ok
        ["Decoded private key:", "Network: unknown", "Version byte: 0x55", "Compressed: true",
          "Public key: 0279be667ef9dcbbac55a06295ce870b07029bfcdb2dce28d959f2815b16f81798"] := by
    decide +kernel
  have hencode : Invocation.parse?
      ["--networks", "own.json", "--network=other", "encode-wif", hex] =
        some ⟨some "own.json", "other", false, .encodeWif hex false⟩ := by
    decide +kernel
  have hdecode : Invocation.parse? ["--networks", "own.json", "decode-wif", line] =
      some ⟨some "own.json", defaultNetwork, false, .decodeWif line⟩ := by
    decide +kernel
  refine ⟨hstart, hother, ?_, ?_⟩
  · rw [run_of_parse hencode hstart hother hwritten]
    exact printLines_singleton line
  · have hmainnet := resolve_defaultNetwork (startRegistry_extends hstart)
    rw [run_of_parse hdecode hstart hmainnet hread]
    decide +kernel

end Command

end CoinAddress
