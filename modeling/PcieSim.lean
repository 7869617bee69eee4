import PcieSim.Types
import PcieSim.Kernel.Dma
import PcieSim.Kernel.Ioctl
import PcieSim.Kernel.Ring
import PcieSim.Kernel.RingFifo
import PcieSim.Kernel.Mmio
import PcieSim.Sim.Api
import PcieSim.Sim.Linux
import PcieSim.Sim.Windows
import PcieSim.Sim.WindowsStats
import PcieSim.Sim.Independence
import PcieSim.Sim.WindowsClients
import PcieSim.Backends
import PcieSim.Utils.Config
import PcieSim.Utils.Options
import PcieSim.Kernel.Driver
import PcieSim.Lib.Device
import PcieSim.Lib.Monitor
import PcieSim.App.TestApp
import PcieSim.Examples.BasicTest
