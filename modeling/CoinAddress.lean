import CoinAddress.Main
import CoinAddress.Proofs.Base58.Numeral
import CoinAddress.Proofs.Base58.Checked
import CoinAddress.Proofs.Base58.Rules
import CoinAddress.Proofs.Base58.Correspondence
import CoinAddress.Proofs.Bech32.Encoded
import CoinAddress.Proofs.Bech32.Regroup
import CoinAddress.Proofs.Bech32.Words
import CoinAddress.Proofs.Bech32.RegroupRules
import CoinAddress.Proofs.Bech32.ErrorDetection
import CoinAddress.Proofs.Bech32.TextRules
import CoinAddress.Proofs.Bech32.Segwit
import CoinAddress.Proofs.Bech32.SegwitRules
import CoinAddress.Proofs.Bech32.SegwitTexts
import CoinAddress.Proofs.Bech32.WholeBytes
import CoinAddress.Proofs.Text.Hex
import CoinAddress.Proofs.Curve.Encoding
import CoinAddress.Proofs.Key.Public
import CoinAddress.Proofs.Key.Format
import CoinAddress.Proofs.Key.Wif
import CoinAddress.Proofs.Bounded
import CoinAddress.Proofs.Key.Rules
import CoinAddress.Proofs.Network.Reachable
import CoinAddress.Proofs.Network.History
import CoinAddress.Proofs.Network.Growth
import CoinAddress.Proofs.Network.Loading
import CoinAddress.Proofs.Address.Families
import CoinAddress.Proofs.Address.HashAddress
import CoinAddress.Proofs.Address.Witness
import CoinAddress.Proofs.Address.WitnessText
import CoinAddress.Proofs.Address.Canonical
import CoinAddress.Proofs.Address.PublicKeyText
import CoinAddress.Proofs.Address.Registration
import CoinAddress.Proofs.Address.PrivateKey
import CoinAddress.Proofs.Address.Belonging
import CoinAddress.Proofs.Address.Order
import CoinAddress.Proofs.Address.WellFormed
import CoinAddress.Proofs.Address.Summary
import CoinAddress.Proofs.Address.TwoNetworks
import CoinAddress.Proofs.Address.Refusals
import CoinAddress.Proofs.Address.WrongVariant
import CoinAddress.Proofs.Address.WitnessRules
import CoinAddress.Proofs.Json.RoundTrip
import CoinAddress.Proofs.Command.PrivateKey
import CoinAddress.Proofs.Address.SecretKey
