import WfxDriver.Message
import WfxDriver.RxHelper
import WfxDriver.RxSequence
import WfxDriver.TxHelper
import WfxDriver.CreditFlow
import WfxDriver.ControlRegister
import WfxDriver.ReceivePump
import WfxDriver.JoinElements
import WfxDriver.StaWork
import WfxDriver.TxLockAccounting
import WfxDriver.WorkDeadlock
import WfxDriver.BhWork
import WfxDriver.LinkMonitor
import WfxDriver.PowerSave
import WfxDriver.BssConfig
import WfxDriver.Interfaces
import WfxDriver.Filtering
