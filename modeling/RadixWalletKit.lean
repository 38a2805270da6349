import RadixWalletKit.Basic
import RadixWalletKit.IdentifiedVec
import RadixWalletKit.Bip39Word
import RadixWalletKit.Keys
import RadixWalletKit.Bech32
import RadixWalletKit.Address
import RadixWalletKit.PrivateKey
import RadixWalletKit.Bech32Laws
import RadixWalletKit.AddressLaws
import RadixWalletKit.Factors
import RadixWalletKit.Account
import RadixWalletKit.Profile
import RadixWalletKit.Wallet
import RadixWalletKit.WalletLaws
import RadixWalletKit.WalletRun
import RadixWalletKit.AccountCreation
import RadixWalletKit.FactorSourceJson
import RadixWalletKit.EntityLaws
import RadixWalletKit.EntityJson
import RadixWalletKit.WalletHistory
import RadixWalletKit.CreationOrder
import RadixWalletKit.Bech32Detection
