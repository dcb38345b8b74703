import CoinAddress.Proofs.Address.Refusals

/-!
# Texts with the checksum of the wrong variant

A text has the residue of one variant only, so the text that is written with the variant that a
witness version does not ask for is not read with the other. As the variant is judged before the
program is looked at, such a text is refused for its checksum however the rest of it is wrong
(`Bech32.Segwit.decode_of_variant`).

The readers of addresses agree if the human-readable part is known, as then nothing is asked behind
the segwit family. Only Base58Check data comes before it, and no such data is refused for a checksum
(`Registry.classify_eq_error`), so the two cases are told apart by the error
(`Registry.decode_of_variant_ne`).
-/

namespace CoinAddress.Registry

open Text Bech32

variable {r : Registry} {d : Network} {s hrp : String}

theorem knowsHrp_of_eq (h : d.hrp = hrp ∨ ∃ n ∈ r.networks, n.hrp = hrp) :
    r.knowsHrp d hrp = true := by
  obtain ⟨n, hn, rfl⟩ : ∃ n ∈ d :: r.networks, n.hrp = hrp := by simpa using h
  exact knowsHrp_iff_exists.2 ⟨n, hn, sameIgnoringCase_self n.hrp⟩

/-- What is refused as a segwit text is refused as an address, if its human-readable part is known
and the text holds no Base58Check data. -/
theorem decode_of_segwit_refused {c : Content} {e e' : Error}
    (hdata : Base58.Checked.decodeData s = .error e') (hread : Bech32.decode s = .ok c)
    (hknown : r.knowsHrp d c.hrp = true) (hrefused : Segwit.decode s = .error e) :
    r.decode d s = .error e := by
  have hclaim : r.claimsSegwit d s = true := (claimsSegwit_of_decode hread).trans hknown
  rw [decode_of_segwit hdata hclaim]
  exact bind_of_error hrefused _

/-- **A text that is written with the wrong variant for its witness version is refused for its
checksum**, whatever its symbols are and in capitals too, as a segwit text and, if its
human-readable part is known, as an address. Texts that hold Base58Check data are the only
exception. -/
theorem decode_of_variant_ne {version : UInt8} {data : Bytes} {variant : Variant}
    (hversion : version ≤ 16) (hvariant : variant ≠ Variant.ofWitnessVersion version)
    (hs : Bech32.encode ⟨hrp, version :: data, variant⟩ = .ok s) {t : String}
    (ht : t = s ∨ t = upperAscii s) :
    Segwit.decode t = .error .checksumMismatch ∧
      ∀ (r : Registry) (d : Network), (d.hrp = hrp ∨ ∃ n ∈ r.networks, n.hrp = hrp) →
        (r.decode d t = .error .checksumMismatch ↔
          ¬ ∃ data, Base58.Checked.decodeData t = .ok data) := by
  have hread : Bech32.decode t = .ok ⟨hrp, version :: data, variant⟩ :=
    (eitherCase.read_eq_ok_iff_of_write hs).2 ht
  have hrefused := Segwit.decode_of_variant hread hversion hvariant
  refine ⟨hrefused, fun r d hknown => ?_⟩
  cases hdata : Base58.Checked.decodeData t with
  | error e =>
    have hmismatch := decode_of_segwit_refused hdata hread (knowsHrp_of_eq hknown) hrefused
    exact iff_of_true hmismatch fun ⟨_, hok⟩ => nomatch hok
  | ok payload =>
    refine iff_of_false (fun hmismatch => ?_) (not_not.2 ⟨payload, rfl⟩)
    rw [decode_of_base58Check hdata] at hmismatch
    obtain ⟨_, h⟩ | ⟨_, h, -⟩ := classify_eq_error hmismatch <;> cases h

/-- Version one with the checksum of version zero, in capitals: the symbols make less than two
bytes, and the bits that are left over are not zero. -/
theorem decode_of_variant_ne_capitals :
    let s := "bc1pl056reaz"
    (1 : UInt8) ≤ 16 ∧ Variant.bech32 ≠ Variant.ofWitnessVersion 1 ∧
      Bech32.encode ⟨"bc", [1, 31, 15], .bech32⟩ = .ok s ∧
      Segwit.decode (upperAscii s) = .error .checksumMismatch ∧
      predefined.decode Network.mainnet (upperAscii s) = .error .checksumMismatch := by
  intro s
  have hs : Bech32.encode ⟨"bc", [1, 31, 15], .bech32⟩ = .ok s := by decide +kernel
  have hdata : ¬ ∃ data, Base58.Checked.decodeData (upperAscii s) = .ok data := by
    -- The symbol 15 is written with the digit zero, which is no base-58 digit.
    rintro ⟨data, h⟩
    exact Base58.Checked.zero_not_mem_of_decodeData h (by decide +kernel)
  obtain ⟨hsegwit, haddress⟩ := decode_of_variant_ne (by decide) (by decide) hs (Or.inr rfl)
  exact ⟨by decide, by decide, hs, hsegwit,
    (haddress predefined Network.mainnet (Or.inl rfl)).2 hdata⟩

end CoinAddress.Registry
