import Xadma.Wdf
import Xadma.Device
import Xadma.Router
import Xadma.Control
import Xadma.Session
import Xadma.AddrMode
import Xadma.UserEvent
import Xadma.Dma
import Xadma.Driver
import Xadma.System
