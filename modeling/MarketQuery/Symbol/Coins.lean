import MarketQuery.Symbol.Table

/-!
The coins that the table starts with.
-/
namespace MarketQuery.Coin

def sui : String := "0x2::sui::SUI"
def usdc : String :=
  "0xdba34672e30cb065b1f93e3ab55318768fd6fef66c15942c9f7cb846e2f900e7::usdc::USDC"
def usdt : String :=
  "0xc060006111016b8a020ad5b33834984a437aaa7d3c74c18e09a95d48aceab08c::coin::COIN"
def weth : String :=
  "0xaf8cd5edc19c4512f4259f0bee101a40d41ebed738ade5874359610ef8eeced5::coin::COIN"
def cetus : String :=
  "0x06864a6f921804860930db6ddbe2e16acdf8504495ea7481637a1c8b9a8fe54b::cetus::CETUS"
def deep : String :=
  "0xdeeb7a4662eec9f2f3def03fb937a663dddaa2e215b8078a284d026b7946c270::deep::DEEP"
def afsui : String :=
  "0xf325ce1300e8dac124071d3152c5c5ee6174914f8bc2161e88329cf579246efc::afsui::AFSUI"
def vsui : String :=
  "0x549e8b69270defbfafd4f94e17ec44cdbdd99820b33bda2278dea3b9a32d3f55::cert::CERT"
def hasui : String :=
  "0xbde4ba4c2e274a60ce15c1cfff9e5c42e41654ac8b6d906a57efa4bd3c29f47d::hasui::HASUI"
def navx : String :=
  "0xa99b8952d4f7d947ea77fe0ecdcc9e5fc0bcab2841d6e2a5aa00c3044e5544b5::navx::NAVX"
def sca : String :=
  "0x7016aae72cfc67f2fadf55769c0a7dd54291a583b63051a5ed71081cce836ac6::sca::SCA"
def buck : String :=
  "0xce7ff77a83ea0cb6fd39bd8748e2ec89a3f41e8efdc3f4eb123e0ca37b184db2::buck::BUCK"
def wal : String :=
  "0x356a26eb9e012a68958082340d4c4116e7f55615cf27affcff209cf0ae544f59::wal::WAL"

def known : List (String × String) :=
  [("SUI", sui), ("USDC", usdc), ("USDT", usdt), ("WETH", weth), ("CETUS", cetus), ("DEEP", deep),
   ("AFSUI", afsui), ("VSUI", vsui), ("HASUI", hasui), ("NAVX", navx), ("SCA", sca),
   ("BUCK", buck), ("WAL", wal)]

end MarketQuery.Coin

namespace MarketQuery.SymbolTable

def builtin : SymbolTable :=
  empty.insertAll Coin.known

end MarketQuery.SymbolTable
