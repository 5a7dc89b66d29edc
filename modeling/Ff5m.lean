import Ff5m.Text.Pattern
import Ff5m.Text.Tools
import Ff5m.Md5.Scripts
import Ff5m.GCode.Params
import Ff5m.GCode.Line
import Ff5m.GCode.Script
import Ff5m.Md5.Signature
import Ff5m.Pause.Macros
import Ff5m.Pause.Restore
import Ff5m.PrintFile.FirstScript
import Ff5m.PrintFile.Quoting
import Ff5m.Store.ConfigParser
import Ff5m.Store.RoundTrip
import Ff5m.Store.SaveVariables
import Ff5m.Store.SharedFile
import Ff5m.Store.Failures
import Ff5m.Control.Macros
import Ff5m.Control.Cancel
import Ff5m.Control.GotoPause
import Ff5m.Control.NewPrint
import Ff5m.Config.Hosts
import Ff5m.Config.Sections
import Ff5m.Config.FixConfig
import Ff5m.Config.Includes
import Ff5m.Config.Reboot
import Ff5m.Config.DisplayMode
import Ff5m.Files.Zclear
import Ff5m.Kamp.Purge
import Ff5m.Offset.SavedOffset
import Ff5m.Pause.Guard
import Ff5m.PrintFile.Gate
import Ff5m.PrintFile.Calls
import Ff5m.PrintFile.HandOver
import Ff5m.PrintFile.Request
import Ff5m.Shell.ShellCommand
import Ff5m.Store.TextTests
import Ff5m.Audio.Midi
import Ff5m.Audio.Pwm
import Ff5m.Buttons.Delivery
import Ff5m.Buttons.Handler
import Ff5m.Sensor.Max31856
import Ff5m.Motion.Filament
import Ff5m.Motion.GCodeMove
import Ff5m.Motion.Client
import Ff5m.Pause.AtLayer
import Ff5m.Mesh.Choice
import Ff5m.Card.Times
import Ff5m.Card.Parked
import Ff5m.Planner.Trapezoid
import Ff5m.Link.Notify
import Ff5m.Link.Written
