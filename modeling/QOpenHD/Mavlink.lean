/-
QOpenHD/Mavlink.lean

The MAVLink messages of commands and extended parameters, as their generated
structures hold them.  A `float` is its 32 bits, and a `char` array all of its
bytes.
-/
import Mathlib.Data.Int.Notation

namespace QOpenHD

/-- `mavlink_command_long_t` -/
structure CommandLong where
  params : Vector UInt32 7
  command : UInt16
  targetSystem : UInt8
  targetComponent : UInt8
  confirmation : UInt8
  deriving DecidableEq

/-- `mavlink_command_ack_t` -/
structure CommandAck where
  command : UInt16
  result : UInt8
  progress : UInt8
  resultParam2 : UInt32
  targetSystem : UInt8
  targetComponent : UInt8
  deriving DecidableEq

/-- `mavlink_param_ext_value_t` -/
structure ParamExtValue where
  paramCount : UInt16
  paramIndex : UInt16
  paramId : Vector UInt8 16
  paramValue : Vector UInt8 128
  paramType : UInt8
  deriving DecidableEq

/-- `mavlink_param_ext_request_list_t` -/
structure ParamExtRequestList where
  targetSystem : UInt8
  targetComponent : UInt8
  deriving DecidableEq

/-- `mavlink_param_ext_request_read_t`, without the name that is left empty. -/
structure ParamExtRequestRead where
  paramIndex : Int16
  targetSystem : UInt8
  targetComponent : UInt8
  deriving DecidableEq

/-- `mavlink_param_ext_set_t` -/
structure ParamExtSet where
  targetSystem : UInt8
  targetComponent : UInt8
  paramId : Vector UInt8 16
  paramValue : Vector UInt8 128
  paramType : UInt8
  deriving DecidableEq

/-- `mavlink_param_ext_ack_t` -/
structure ParamExtAck where
  paramId : Vector UInt8 16
  paramValue : Vector UInt8 128
  paramType : UInt8
  paramResult : UInt8
  deriving DecidableEq

def PARAM_ACK_ACCEPTED : UInt8 := 0

/-- `mavlink_mission_request_list_t` -/
structure MissionRequestList where
  targetSystem : UInt8
  targetComponent : UInt8
  missionType : UInt8
  deriving DecidableEq

/-- `mavlink_mission_request_int_t` -/
structure MissionRequestInt where
  seq : UInt16
  targetSystem : UInt8
  targetComponent : UInt8
  missionType : UInt8
  deriving DecidableEq

def MAV_MISSION_TYPE_MISSION : UInt8 := 0

/-- A message that was received, decoded. -/
inductive MavlinkPayload
  | commandAck (ack : CommandAck)
  | paramExtValue (response : ParamExtValue)
  | other

/-- `mavlink_message_t`: the payload and who sent it. -/
structure MavlinkMessage where
  sysid : UInt8
  compid : UInt8
  payload : MavlinkPayload

/-! ### Commands (`create_cmd_helper.hpp`) -/

/-- `MAV_CMD_PREFLIGHT_REBOOT_SHUTDOWN` -/
def MAV_CMD_PREFLIGHT_REBOOT_SHUTDOWN : UInt16 := 246

/-- The `float` 1 to reboot, 2 to shut down. -/
def rebootParam (reboot : Bool) : UInt32 := if reboot then 0x3f800000 else 0x40000000

def createCmdReboot (targetSysid targetCompid : UInt8) (reboot companionComputer : Bool) :
    CommandLong where
  params :=
    if companionComputer then #v[0, rebootParam reboot, 0, 0, 0, 0, 0]
    else #v[rebootParam reboot, 0, 0, 0, 0, 0, 0]
  command := MAV_CMD_PREFLIGHT_REBOOT_SHUTDOWN
  targetSystem := targetSysid
  targetComponent := targetCompid
  confirmation := 0

/-- An `int` as the bits of a `float`. -/
def floatBits (n : ℤ) : UInt32 := (Float32.ofInt n).toBits

def MAV_CMD_PREFLIGHT_CALIBRATION : UInt16 := 241

def createCmdCompassCalibration (targetSysid targetCompid : UInt8) : CommandLong where
  params := #v[0, floatBits 1, 0, 0, 0, 0, 0]
  command := MAV_CMD_PREFLIGHT_CALIBRATION
  targetSystem := targetSysid
  targetComponent := targetCompid
  confirmation := 0

def MAV_CMD_REQUEST_MESSAGE : UInt16 := 512

def createCmdRequestMessage (targetSysid targetCompid : UInt8) (messageId : ℤ) : CommandLong where
  params := #v[floatBits messageId, 0, 0, 0, 0, 0, 0]
  command := MAV_CMD_REQUEST_MESSAGE
  targetSystem := targetSysid
  targetComponent := targetCompid
  confirmation := 0

def MAV_CMD_COMPONENT_ARM_DISARM : UInt16 := 400

def createCmdArm (fcSysId fcCompId : UInt8) (arm : Bool) : CommandLong where
  params := #v[floatBits (if arm then 1 else 0), 0, 0, 0, 0, 0, 0]
  command := MAV_CMD_COMPONENT_ARM_DISARM
  targetSystem := fcSysId
  targetComponent := fcCompId
  confirmation := 0

def MAV_CMD_DO_SET_MODE : UInt16 := 176

def MAV_MODE_FLAG_CUSTOM_MODE_ENABLED : ℤ := 1

def createCmdDoSetFlightMode (fcSysId fcCompId : UInt8) (mode : ℤ) : CommandLong where
  params := #v[floatBits MAV_MODE_FLAG_CUSTOM_MODE_ENABLED, floatBits mode, 0, 0, 0, 0, 0]
  command := MAV_CMD_DO_SET_MODE
  targetSystem := fcSysId
  targetComponent := fcCompId
  confirmation := 0

def MAV_CMD_SET_MESSAGE_INTERVAL : UInt16 := 511

def createCmdSetMsgInterval (targetSystem targetComponent : UInt8) (msgType intervalUs : ℤ) :
    CommandLong where
  params := #v[floatBits msgType, floatBits intervalUs, 0, 0, 0, 0, 0]
  command := MAV_CMD_SET_MESSAGE_INTERVAL
  targetSystem := targetSystem
  targetComponent := targetComponent
  confirmation := 0

/-! ### Systems (`openhd_defines.hpp`) -/

def OHD_SYS_ID_GROUND : UInt8 := 100

def OHD_SYS_ID_AIR : UInt8 := 101

def MAV_COMP_ID_ONBOARD_COMPUTER : UInt8 := 191

def MAV_COMP_ID_MISSIONPLANNER : UInt8 := 190

def MAV_COMP_ID_AUTOPILOT1 : UInt8 := 1

def MAV_COMP_ID_SYSTEM_CONTROL : UInt8 := 250

end QOpenHD
