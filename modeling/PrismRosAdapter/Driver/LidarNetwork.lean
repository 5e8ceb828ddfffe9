import PrismRosAdapter.Driver.State

/-! # The LiDAR network of the device

An address is checked byte by byte before anything is sent; a configuration the
device already has is not saved again.
-/
namespace PrismRosAdapter.Driver
open Program

def dot : UInt8 := 46

def isDigit (c : UInt8) : Bool := decide (48 ≤ c ∧ c ≤ 57)

def octetValue (digits : List UInt8) : ℕ :=
  digits.foldl (fun number c => number * 10 + (c.toNat - 48)) 0

def isOctet (digits : List UInt8) : Bool :=
  decide (digits.length ≠ 0 ∧ digits.length ≤ 3) && digits.all isDigit &&
    decide (octetValue digits ≤ 255)

/-- `more` octets that end in a dot, then one that ends the text. -/
def octetsValid : ℕ → List UInt8 → Bool
  | 0, text => !text.contains dot && isOctet text
  | more + 1, text =>
    text.contains dot && isOctet (text.takeWhile (· ≠ dot)) &&
      octetsValid more (text.dropWhile (· ≠ dot)).tail

def isValidIpv4 (value : List UInt8) : Bool := !value.isEmpty && octetsValid 3 value

def requireIpv4 (name value : String) : Driving Unit :=
  if isValidIpv4 value.toUTF8.toList then return ()
  else throw (.adapter (name ++ " is not a valid IPv4 address"))

def checkSavedNetwork (requested : LidarNetworkConfiguration) (saved : LidarNetworkStatus) :
    Except Failure Unit := do
  if saved.errorCode ≠ 0 then
    throw (.adapter ("LiDAR startup network configuration failed" ++
      (if saved.error = "" then "" else ": " ++ saved.error)))
  if ¬ saved.persisted ∨ saved.configuration ≠ requested then
    throw (.adapter "LiDAR startup network configuration was not persisted")

def configureLidarNetworkOnStart (w : World) : Driving Unit := do
  let s ← get
  let config := s.control.config
  if ¬ config.lidarNetworkApplyOnStart then return ()
  else
    requireIpv4 "lidar_host_ip" config.lidarHostIp
    requireIpv4 "lidar_netmask" config.lidarNetmask
    requireIpv4 "lidar_ip" config.lidarIp
    let requested : LidarNetworkConfiguration :=
      ⟨config.lidarNetworkEnabled,config.lidarHostIp,config.lidarNetmask,config.lidarIp⟩
    let current ← consult "lidarNetworkStatus" w.lidarNetworkStatus
    if current.persisted ∧ current.configuration = requested then return ()
    else
      let saved ← consult "saveLidarNetworkConfiguration"
        (w.saveLidarNetworkConfiguration · requested)
      answer (checkSavedNetwork requested saved)

end PrismRosAdapter.Driver
